/-
# What a double stands for

A double is kept as a sign, a mantissa and an exponent, and everything that is asked of it is asked
of these.  Here the answers are tied to the number that they stand for, which is a rational one
(`Binary64.value`): the exact comparison compares magnitudes (`magnitudeBelow_iff`), and the integer
next to a double in the direction of zero is that of its value (`truncate_eq`).

Rounding never takes a number below a power of two that it has reached, as long as the power is a
double itself (`le_magnitude_of_ofNat?`).
-/
import Mathlib.Algebra.Order.Field.Power
import Mathlib.Data.Rat.Floor
import TokenTrust.Binary64.Basic

namespace TokenTrust

/-- The integer next to a rational number in the direction of zero. -/
def towardZero (q : ℚ) : ℤ :=
  if 0 ≤ q then ⌊q⌋ else ⌈q⌉

/-- An integer is left as it is. -/
theorem towardZero_intCast (n : ℤ) : towardZero n = n := by
  simp [towardZero]

/-- What is at least an integer above zero is at least that integer without its fraction. -/
theorem le_towardZero_iff {n : ℤ} {q : ℚ} (hn : 0 < n) : n ≤ towardZero q ↔ (n : ℚ) ≤ q := by
  by_cases hq : 0 ≤ q
  · rw [towardZero, if_pos hq, Int.le_floor]
  · have hceil : ⌈q⌉ ≤ 0 := Int.ceil_le.mpr (by simpa using (not_le.mp hq).le)
    have hcast : (0 : ℚ) < n := by exact_mod_cast hn
    rw [towardZero, if_neg hq]
    constructor
    · intro h
      omega
    · intro h
      linarith

/-- What is above an integer without its fraction is above it, and the other way round, if the
integer is below zero. -/
theorem lt_towardZero_iff {n : ℤ} {q : ℚ} (hn : n < 0) : n < towardZero q ↔ (n : ℚ) < q := by
  by_cases hq : 0 ≤ q
  · have hfloor : 0 ≤ ⌊q⌋ := Int.floor_nonneg.mpr hq
    have hcast : (n : ℚ) < 0 := by exact_mod_cast hn
    rw [towardZero, if_pos hq]
    constructor
    · intro h
      linarith
    · intro h
      omega
  · rw [towardZero, if_neg hq, Int.lt_ceil]

namespace Binary64

/-! ## 1. Values -/

/-- How far from zero a double is. -/
def magnitude (x : Binary64) : ℚ :=
  x.mantissa * 2 ^ x.exponent

/-- The number that a double stands for. -/
def value (x : Binary64) : ℚ :=
  if x.negative then -x.magnitude else x.magnitude

theorem magnitude_nonneg (x : Binary64) : 0 ≤ x.magnitude :=
  mul_nonneg (Nat.cast_nonneg _) (zpow_nonneg (by norm_num) _)

theorem abs_value (x : Binary64) : |x.value| = x.magnitude := by
  rw [value]
  split
  · rw [abs_neg, abs_of_nonneg x.magnitude_nonneg]
  · exact abs_of_nonneg x.magnitude_nonneg

theorem magnitude_withSign (negative : Bool) (x : Binary64) :
    (x.withSign negative).magnitude = x.magnitude := rfl

/-- The two integers that a double is written with have its magnitude for a quotient. -/
theorem ratio_spec (x : Binary64) :
    0 < (ratio x.mantissa x.exponent).2 ∧
      x.magnitude = (ratio x.mantissa x.exponent).1 / (ratio x.mantissa x.exponent).2 := by
  by_cases he : 0 ≤ x.exponent
  · obtain ⟨k, hk⟩ := Int.eq_ofNat_of_zero_le he
    rw [ratio, if_pos he, magnitude, hk]
    simp [Nat.shiftLeft_eq]
  · obtain ⟨k, hk⟩ := Int.eq_ofNat_of_zero_le (by omega : 0 ≤ -x.exponent)
    have hexp : x.exponent = -(k : ℤ) := by omega
    rw [ratio, if_neg he, magnitude, hexp, zpow_neg, zpow_natCast, ← div_eq_mul_inv]
    simp [Nat.shiftLeft_eq]

/-- **The exact comparison compares magnitudes.** -/
theorem magnitudeBelow_iff {x : Binary64} {n : ℕ} :
    x.magnitudeBelow n = true ↔ x.magnitude < n := by
  obtain ⟨hden, hmagnitude⟩ := x.ratio_spec
  have hden' : (0 : ℚ) < (ratio x.mantissa x.exponent).2 := by exact_mod_cast hden
  rw [hmagnitude, div_lt_iff₀ hden', magnitudeBelow, decide_eq_true_iff]
  norm_cast

/-- The whole part of a quotient of natural numbers. -/
theorem floor_div (a b : ℕ) : ⌊(a : ℚ) / b⌋ = ((a / b : ℕ) : ℤ) := by
  have h := Rat.floor_intCast_div_natCast a b
  simpa using h

/-- **The integer next to a double is the one next to its value.** -/
theorem truncate_eq (x : Binary64) : x.truncate = towardZero x.value := by
  obtain ⟨hden, hmagnitude⟩ := x.ratio_spec
  have hfloor : ⌊x.magnitude⌋ =
      (((ratio x.mantissa x.exponent).1 / (ratio x.mantissa x.exponent).2 : ℕ) : ℤ) := by
    rw [hmagnitude, floor_div]
  have habove : towardZero x.magnitude = ⌊x.magnitude⌋ := if_pos x.magnitude_nonneg
  cases hs : x.negative with
  | false => simp only [truncate, value, hs, Bool.false_eq_true, if_false, habove, hfloor]
  | true =>
    have hbelow : towardZero (-x.magnitude) = -⌊x.magnitude⌋ := by
      rw [towardZero]
      split
      · next h =>
        have hzero : x.magnitude = 0 := le_antisymm (by linarith) x.magnitude_nonneg
        simp [hzero]
      · exact Int.ceil_neg
    simp only [truncate, value, hs, if_true, hbelow, hfloor]

/-! ## 2. Rounding -/

/-- Rounding a quotient to an integer does not take it below its whole part. -/
theorem div_le_roundQuotient (num den : ℕ) : num / den ≤ roundQuotient num den := by
  simp only [roundQuotient]
  split <;> omega

/-- A number other than zero is rounded to the mantissa that its exponent leaves, and a carry goes
into the exponent. -/
theorem parts_of_nearest {negative : Bool} {num den : ℕ} {x : Binary64} (hne : num ≠ 0)
    (h : nearest negative num den = some x) :
    (x.mantissa = roundScaled num den (exponentOf num den) ∧
        x.exponent = exponentOf num den) ∨
      (x.mantissa = hiddenBit ∧ x.exponent = exponentOf num den + 1) := by
  rw [nearest, if_neg hne] at h
  extract_lets e m at h
  by_cases hcarry : m = 2 * hiddenBit
  · rw [if_pos hcarry] at h
    simp only [Option.ite_none_left_eq_some, Option.some.injEq] at h
    obtain ⟨-, rfl⟩ := h
    exact Or.inr ⟨rfl, rfl⟩
  · rw [if_neg hcarry] at h
    simp only [Option.ite_none_left_eq_some, Option.some.injEq] at h
    obtain ⟨-, rfl⟩ := h
    exact Or.inl ⟨rfl, rfl⟩

theorem hiddenBit_eq : hiddenBit = 2 ^ 52 := by
  norm_num [hiddenBit]

/-- The exponent of a natural number that has at least the bits of a mantissa. -/
theorem exponentOf_one {n : ℕ} (hn : hiddenBit ≤ n) :
    exponentOf n 1 = ((n.log2 - 52 : ℕ) : ℤ) := by
  rw [hiddenBit_eq] at hn
  have hne : n ≠ 0 := (lt_of_lt_of_le (Nat.two_pow_pos 52) hn).ne'
  have hlog : 52 ≤ n.log2 := (Nat.le_log2 hne).mpr hn
  have hone : Nat.log2 1 = 0 := by decide
  have hguess : (n.log2 : ℤ) - (Nat.log2 1 : ℤ) - 52 = ((n.log2 - 52 : ℕ) : ℤ) := by omega
  have hreach : ¬ n < (1 <<< (n.log2 - 52)) * hiddenBit := by
    rw [Nat.shiftLeft_eq, one_mul, hiddenBit_eq, ← pow_add, Nat.sub_add_cancel hlog]
    exact not_lt.mpr (Nat.log2_self_le hne)
  simp only [exponentOf, hguess, Int.natCast_nonneg, if_true, Int.toNat_natCast, hreach, if_false,
    leastExponent]
  omega

/-- **A power of two that a natural number has reached is not lost by rounding**, if it has at least
the bits of a mantissa. -/
theorem le_magnitude_of_ofNat? {n k : ℕ} {x : Binary64} (hk : 52 ≤ k) (hn : 2 ^ k ≤ n)
    (h : ofNat? n = some x) : (2 : ℚ) ^ k ≤ x.magnitude := by
  have hne : n ≠ 0 := (lt_of_lt_of_le (Nat.two_pow_pos k) hn).ne'
  have hlog : k ≤ n.log2 := (Nat.le_log2 hne).mpr hn
  have hbits : 52 + (n.log2 - 52) = n.log2 := Nat.add_sub_cancel' (hk.trans hlog)
  have hexponent : exponentOf n 1 = ((n.log2 - 52 : ℕ) : ℤ) := by
    apply exponentOf_one
    rw [hiddenBit_eq]
    exact (Nat.pow_le_pow_right Nat.two_pos hk).trans hn
  have hmantissa : 2 ^ 52 ≤ roundScaled n 1 ((n.log2 - 52 : ℕ) : ℤ) := by
    rw [roundScaled, if_pos (Int.natCast_nonneg _), Int.toNat_natCast, Nat.shiftLeft_eq, one_mul]
    refine le_trans ?_ (div_le_roundQuotient n _)
    rw [Nat.le_div_iff_mul_le (Nat.two_pow_pos _), ← pow_add, hbits]
    exact Nat.log2_self_le hne
  -- the mantissa has the bits that it is to have, before a carry and after it
  have hparts : 2 ^ 52 ≤ x.mantissa ∧ ((n.log2 - 52 : ℕ) : ℤ) ≤ x.exponent := by
    rcases parts_of_nearest hne h with ⟨hm, he⟩ | ⟨hm, he⟩
    · rw [hm, he, hexponent]
      exact ⟨hmantissa, le_rfl⟩
    · rw [hm, he, hexponent]
      exact ⟨hiddenBit_eq.ge, Int.le_add_one le_rfl⟩
  calc (2 : ℚ) ^ k ≤ 2 ^ n.log2 := pow_le_pow_right₀ one_le_two hlog
    _ = 2 ^ 52 * 2 ^ ((n.log2 - 52 : ℕ) : ℤ) := by rw [zpow_natCast, ← pow_add, hbits]
    _ ≤ x.magnitude := by
      refine mul_le_mul ?_ (zpow_le_zpow_right₀ one_le_two hparts.2) (zpow_nonneg zero_le_two _)
        (Nat.cast_nonneg _)
      exact_mod_cast hparts.1

end Binary64
end TokenTrust

/-
# Numbers and their octets

A number is the value of its octets, and octets of one length are determined by their value
(`Octets.fixed_value`): what is written in a width is read back, and what is read is what was
written.  Zeros in front change the length and not the value (`Octets.value_zeros_append`), so
filling up to a width writes the value in that width (`Octets.padLeft_eq_fixed`).

The shortest octets of a number have its value as well (`Octets.value_minimal`), and a greater
number does not need fewer of them (`Octets.size_mono`).
-/
import Mathlib
import TokenTrust.Number.Laws

namespace TokenTrust
namespace Octets

/-! ## 1. Values -/

@[simp] theorem value_nil : value [] = 0 := rfl

theorem value_append (xs ys : List UInt8) :
    value (xs ++ ys) = value xs * 256 ^ ys.length + value ys := by
  induction ys using List.reverseRecOn with
  | nil => simp
  | append_singleton ys y ih =>
    rw [← List.append_assoc, value_concat, ih, value_concat, List.length_append,
      List.length_singleton, Nat.pow_succ]
    ring

theorem value_zeros (k : Nat) : value (List.replicate k 0) = 0 := by
  induction k with
  | zero => rfl
  | succ k ih => rw [List.replicate_succ', value_concat, ih]; rfl

/-- **Zeros in front do not count.** -/
theorem value_zeros_append (k : Nat) (bs : List UInt8) :
    value (List.replicate k 0 ++ bs) = value bs := by
  rw [value_append, value_zeros, Nat.zero_mul, Nat.zero_add]

theorem value_cons_zero (bs : List UInt8) : value (0 :: bs) = value bs :=
  value_zeros_append 1 bs

/-- A number of some octets has room in them. -/
theorem value_lt (bs : List UInt8) : value bs < 256 ^ bs.length := by
  induction bs using List.reverseRecOn with
  | nil => simp
  | append_singleton bs b ih =>
    have hb := b.toNat_lt
    rw [value_concat, List.length_append, List.length_singleton, Nat.pow_succ]
    omega

/-- **Octets are what their value is written as** in as many of them. -/
theorem fixed_value (bs : List UInt8) : fixed bs.length (value bs) = bs := by
  induction bs using List.reverseRecOn with
  | nil => rfl
  | append_singleton bs b ih =>
    have hb := b.toNat_lt
    have hq : (value bs * 256 + b.toNat) / 256 = value bs := by omega
    have hr : ((value bs * 256 + b.toNat) % 256).toUInt8 = b := by
      rw [show (value bs * 256 + b.toNat) % 256 = b.toNat by omega]
      simp
    rw [value_concat, List.length_append, List.length_singleton, fixed, hq, hr, ih]

/-! ## 2. A given width -/

section Width

variable {width : Nat} {bs : List UInt8}

theorem length_padLeft (h : bs.length ≤ width) : (padLeft width bs).length = width := by
  rw [padLeft, List.length_append, List.length_replicate]
  omega

theorem value_padLeft (width : Nat) (bs : List UInt8) : value (padLeft width bs) = value bs :=
  value_zeros_append _ bs

/-- **Filled up to a width, octets are their value in that width**, however many zeros they had in
front. -/
theorem padLeft_eq_fixed (h : bs.length ≤ width) : padLeft width bs = fixed width (value bs) := by
  have hfixed := fixed_value (padLeft width bs)
  rw [length_padLeft h, value_padLeft] at hfixed
  exact hfixed.symm

end Width

/-! ## 3. The shortest octets -/

theorem length_minimal (n : Nat) : (minimal n).length = size n := length_fixed _ _

/-- The octets that a number needs have room for it. -/
theorem lt_pow_size (n : Nat) : n < 256 ^ size n := by
  rw [size]
  split
  · next h => simp [h]
  · next h =>
    calc n < 2 ^ (n.log2 + 1) := Nat.lt_log2_self
      _ ≤ 2 ^ (8 * (n.log2 / 8 + 1)) := Nat.pow_le_pow_right (by decide) (by omega)
      _ = 256 ^ (n.log2 / 8 + 1) := by rw [Nat.pow_mul]

theorem value_minimal (n : Nat) : value (minimal n) = n :=
  value_fixed _ _ (lt_pow_size n)

/-- A number that has room in some octets needs no more of them. -/
theorem size_le_of_lt {n k : Nat} (h : n < 256 ^ k) : size n ≤ k := by
  rw [size]
  split
  · exact Nat.zero_le k
  · next hn =>
    have hlog : n.log2 < 8 * k := by
      rw [Nat.log2_lt hn, Nat.pow_mul]
      exact h
    omega

/-- **A greater number does not need fewer octets.** -/
theorem size_mono {m n : Nat} (h : m ≤ n) : size m ≤ size n :=
  size_le_of_lt (Nat.lt_of_le_of_lt h (lt_pow_size n))

end Octets
end TokenTrust

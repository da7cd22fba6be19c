/-
# What the arithmetic computes

The definitions run on octets and on squares; this is what they amount to.  Writing a number in
a width that is wide enough loses nothing (`value_fixed`), and repeated squaring is a power
(`pow_eq`).
-/
import Mathlib.Algebra.Order.Ring.Nat
import TokenTrust.Number.Modular
import TokenTrust.Number.Octets

namespace TokenTrust

/-! ## 1. Numbers as octets -/

namespace Octets

theorem length_fixed (width n : Nat) : (fixed width n).length = width := by
  induction width generalizing n with
  | zero => rfl
  | succ width ih => simp [fixed, ih]

/-- One octet more on the right. -/
theorem value_concat (bs : List UInt8) (b : UInt8) :
    value (bs ++ [b]) = value bs * 256 + b.toNat := by
  simp [value]

/-- Writing in a width that is wide enough loses nothing. -/
theorem value_fixed (width n : Nat) (h : n < 256 ^ width) : value (fixed width n) = n := by
  induction width generalizing n with
  | zero =>
    have : n = 0 := by simpa using h
    simp [fixed, value, this]
  | succ width ih =>
    have hq : n / 256 < 256 ^ width := by
      apply Nat.div_lt_of_lt_mul
      rw [Nat.pow_succ] at h
      omega
    have hr : (n % 256).toUInt8.toNat = n % 256 := by simp
    rw [fixed, value_concat, ih _ hq, hr]
    omega

end Octets

/-! ## 2. Powers modulo a number -/

namespace Modular

/-- Squaring repeatedly computes the power. -/
theorem powFrom_eq (m acc base exponent : Nat) (h : acc < m) :
    powFrom m acc base exponent = acc * base ^ exponent % m := by
  induction exponent using Nat.strongRecOn generalizing acc base with
  | _ exponent ih =>
    unfold powFrom
    split
    · next h0 => subst h0; simp [Nat.mod_eq_of_lt h]
    · next h0 =>
      have hm : 0 < m := Nat.lt_of_le_of_lt (Nat.zero_le _) h
      have hlt : exponent / 2 < exponent := Nat.div_lt_self (by omega) (by omega)
      have hsq : ∀ k, (base * base % m) ^ k % m = base ^ (2 * k) % m := by
        intro k
        rw [← Nat.pow_mod, Nat.pow_mul, Nat.pow_two]
      simp only
      split
      · next h1 =>
        rw [ih _ hlt _ _ (Nat.mod_lt _ hm), Nat.mul_mod, hsq, Nat.mod_mod, ← Nat.mul_mod,
          Nat.mul_assoc, ← Nat.pow_succ']
        congr 3
        omega
      · next h1 =>
        rw [ih _ hlt _ _ h, Nat.mul_mod, hsq, ← Nat.mul_mod]
        congr 3
        omega

/-- Powers are what they should be. -/
theorem pow_eq (m base exponent : Nat) (h : 0 < m) : pow m base exponent = base ^ exponent % m := by
  rw [pow, powFrom_eq _ _ _ _ (Nat.mod_lt _ h), ← Nat.mul_mod_mod, ← Nat.pow_mod,
    Nat.mod_mul_mod, Nat.mul_mod_mod, Nat.one_mul]

end Modular
end TokenTrust

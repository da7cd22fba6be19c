/-
# Finite binary64 numbers

A finite double is `± mantissa · 2 ^ exponent`, kept exact: no arithmetic here goes through
the machine.  `nearest` is the one rounding rule, to the nearest number with ties to the even
mantissa, and products and quotients are the exact result handed to it.  It answers nothing
when the result would be infinite.
-/

namespace TokenTrust

/-! ## 1. The numbers -/

/-- A finite double, `± mantissa · 2 ^ exponent`.  The mantissa has at most 53 bits and the
exponent is between -1074 and 971; a mantissa of fewer bits occurs only with the least
exponent.  Zero has a sign. -/
structure Binary64 where
  negative : Bool
  mantissa : Nat
  exponent : Int
  deriving DecidableEq, Repr, Inhabited

namespace Binary64

/-- The least exponent, that of the subnormal numbers. -/
def leastExponent : Int := -1074

/-- The greatest exponent of a finite number. -/
def greatestExponent : Int := 971

/-- The least mantissa of 53 bits.  The interchange format leaves out its one bit. -/
def hiddenBit : Nat := 0x10000000000000

/-- A zero with a sign. -/
def zero (negative : Bool) : Binary64 := ⟨negative, 0, leastExponent⟩

/-- The number with the other sign. -/
def neg (x : Binary64) : Binary64 := { x with negative := !x.negative }

/-- The number with the given sign. -/
def withSign (negative : Bool) (x : Binary64) : Binary64 := { x with negative := negative }

/-- Whether the number is zero, of either sign. -/
def isZero (x : Binary64) : Bool := x.mantissa == 0

/-- The sixty-four bits of the interchange format. -/
def bits (x : Binary64) : UInt64 :=
  let sign : Nat := if x.negative then 1 <<< 63 else 0
  let magnitude :=
    if x.mantissa < hiddenBit then x.mantissa
    else (x.exponent + 1075).toNat * hiddenBit + (x.mantissa - hiddenBit)
  (sign + magnitude).toUInt64

/-! ## 2. Exact comparisons -/

/-- `mantissa · 2 ^ exponent` as a numerator and a denominator. -/
def ratio (mantissa : Nat) (exponent : Int) : Nat × Nat :=
  if 0 ≤ exponent then (mantissa <<< exponent.toNat, 1)
  else (mantissa, 1 <<< (-exponent).toNat)

/-- The magnitude is below a natural number. -/
def magnitudeBelow (x : Binary64) (n : Nat) : Bool :=
  let (num, den) := ratio x.mantissa x.exponent
  num < n * den

/-- The integer next to the number in the direction of zero. -/
def truncate (x : Binary64) : Int :=
  let (num, den) := ratio x.mantissa x.exponent
  if x.negative then -((num / den : Nat) : Int) else ((num / den : Nat) : Int)

/-! ## 3. Rounding -/

/-- The quotient rounded to the nearest integer, a tie to the even one. -/
def roundQuotient (num den : Nat) : Nat :=
  let q := num / den
  let r := num % den
  if den < 2 * r ∨ (2 * r = den ∧ q % 2 = 1) then q + 1 else q

/-- `num / (den · 2 ^ e)`, rounded to an integer. -/
def roundScaled (num den : Nat) (e : Int) : Nat :=
  if 0 ≤ e then roundQuotient num (den <<< e.toNat)
  else roundQuotient (num <<< (-e).toNat) den

/-- The exponent with which `num / den` has a mantissa of 53 bits, or the least one. -/
def exponentOf (num den : Nat) : Int :=
  let guess : Int := (num.log2 : Int) - (den.log2 : Int) - 52
  let (n, d) := if 0 ≤ guess then (num, den <<< guess.toNat) else (num <<< (-guess).toNat, den)
  let exact := if n < d * hiddenBit then guess - 1 else guess
  max exact leastExponent

/-- The double nearest to `num / den`, or nothing when that is infinite. -/
def nearest (negative : Bool) (num den : Nat) : Option Binary64 :=
  if num = 0 then some (zero negative)
  else
    let e := exponentOf num den
    let m := roundScaled num den e
    let (m, e) := if m = 2 * hiddenBit then (hiddenBit, e + 1) else (m, e)
    if greatestExponent < e then none else some ⟨negative, m, e⟩

/-- The double nearest to a natural number. -/
def ofNat? (n : Nat) : Option Binary64 :=
  nearest false n 1

/-- The rounded product, or nothing when it is infinite. -/
def mul? (x y : Binary64) : Option Binary64 :=
  let (num, den) := ratio (x.mantissa * y.mantissa) (x.exponent + y.exponent)
  nearest (x.negative != y.negative) num den

/-- The rounded quotient by a number other than zero, or nothing when it is infinite. -/
def div? (x y : Binary64) : Option Binary64 :=
  let (num, den) := ratio x.mantissa (x.exponent - y.exponent)
  nearest (x.negative != y.negative) num (den * y.mantissa)

/-- The double nearest to a power of ten. -/
def tenPow? (k : Nat) : Option Binary64 :=
  ofNat? (Nat.pow 10 k)

end Binary64
end TokenTrust

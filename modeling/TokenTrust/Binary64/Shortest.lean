/-
# Shortest decimal text of a double

A decimal number stands for the double it rounds to.  The text of a double is the one with
the fewest digits that stands for it, and of those the nearest; `shortest` finds it by trying
one digit, then two, and so on, on the two decimal neighbours of the number.  Seventeen
digits are always enough.

`text` then lays the digits out: positional while the point falls within the sixteen places
after or the five before the first digit, and with an exponent and its sign otherwise.  There
is always a point or an exponent, so a double never looks like an integer.
-/
import TokenTrust.Binary64.Basic

namespace TokenTrust
namespace Binary64

/-! ## 1. Fewest digits -/

/-- A decimal number `digits · 10 ^ power`. -/
structure Decimal where
  digits : Nat
  power : Int
  deriving DecidableEq, Repr

/-- The number of decimal digits. -/
def digitCount (n : Nat) : Nat :=
  (Nat.toDigits 10 n).length

/-- The power of ten of the first digit of `num / den`, which is positive. -/
def leadingPower (num den : Nat) : Int :=
  if den ≤ num then (digitCount (num / den) : Int) - 1
  else -(digitCount ((den - 1) / num) : Int)

/-- `c · 10 ^ s` as a numerator and a denominator. -/
def decimalRatio (c : Nat) (s : Int) : Nat × Nat :=
  if 0 ≤ s then (c * Nat.pow 10 s.toNat, 1) else (c, Nat.pow 10 (-s).toNat)

/-- Whether `c · 10 ^ s` rounds to the double `m · 2 ^ e`.  In units of `2 ^ (e - 2)` the
double is `4 m`, and the halfway points are two units away, or one unit below the least
mantissa of a binade.  A halfway point belongs to the even mantissa. -/
def standsFor (m : Nat) (e : Int) (c : Nat) (s : Int) : Bool :=
  let below := if m = hiddenBit ∧ leastExponent < e then 1 else 2
  let (num, den) := decimalRatio c s
  let (lowNum, lowDen) := ratio (4 * m - below) (e - 2)
  let (highNum, highDen) := ratio (4 * m + 2) (e - 2)
  if m % 2 = 0 then lowNum * den ≤ num * lowDen && num * highDen ≤ highNum * den
  else lowNum * den < num * lowDen && num * highDen < highNum * den

/-- The decimal with `count` digits that stands for the double, the nearer one if there are
two, and the one with an even last digit if they are equally near. -/
def withDigits (m : Nat) (e : Int) (count : Nat) : Option Decimal :=
  let (num, den) := ratio m e
  let s := leadingPower num den - (count : Int) + 1
  let (sNum, sDen) := decimalRatio 1 s
  let low := num * sDen / (den * sNum)
  let left := num * sDen % (den * sNum)
  let exact := left = 0
  let lowHits := low ≠ 0 ∧ standsFor m e low s = true
  let highHits := ¬ exact ∧ standsFor m e (low + 1) s = true
  if lowHits ∧ highHits then
    let gap := den * sNum
    if 2 * left < gap ∨ (2 * left = gap ∧ low % 2 = 0) then some ⟨low, s⟩
    else some ⟨low + 1, s⟩
  else if lowHits then some ⟨low, s⟩
  else if highHits then some ⟨low + 1, s⟩
  else none

/-- The shortest decimal that stands for a double other than zero. -/
def shortest (m : Nat) (e : Int) : Decimal :=
  ((List.range 17).findSome? fun i => withDigits m e (i + 1)).getD ⟨0, 0⟩

/-! ## 2. Layout -/

/-- The digits of a decimal without the zeros at its end, which go into the power. -/
def Decimal.normal (d : Decimal) : List Char × Int :=
  let cs := Nat.toDigits 10 d.digits
  let kept := (cs.reverse.dropWhile (· == '0')).reverse
  (kept, d.power + ((cs.length - kept.length : Nat) : Int))

/-- The text of a decimal.  `point` counts the digits before the point. -/
def Decimal.layout (d : Decimal) : String :=
  let (cs, power) := d.normal
  let point := (cs.length : Int) + power
  if 0 ≤ power ∧ point ≤ 16 then
    String.ofList (cs ++ List.replicate power.toNat '0') ++ ".0"
  else if 0 < point ∧ point ≤ 16 then
    String.ofList (cs.take point.toNat) ++ "." ++ String.ofList (cs.drop point.toNat)
  else if -5 < point ∧ point ≤ 0 then
    "0." ++ String.ofList (List.replicate (-point).toNat '0' ++ cs)
  else
    let mantissa := match cs with
      | [c] => String.ofList [c]
      | c :: rest => String.ofList (c :: '.' :: rest)
      | [] => "0"
    let sign := if 0 < point then "+" else ""
    mantissa ++ "e" ++ sign ++ toString (point - 1)

/-- The text of a double. -/
def text (x : Binary64) : String :=
  let sign := if x.negative then "-" else ""
  if x.isZero then sign ++ "0.0" else sign ++ (shortest x.mantissa x.exponent).layout

end Binary64
end TokenTrust

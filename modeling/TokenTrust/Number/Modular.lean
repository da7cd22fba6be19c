/-
# Arithmetic modulo a number

Powers by repeated squaring, and what follows from them modulo a prime: the inverse of a number
is its power to `p - 2`, and where `p` is 3 modulo 4, a root of a square is its power to
`(p + 1) / 4`.
-/

namespace TokenTrust
namespace Modular

/-- `acc * base ^ exponent` modulo `m`. -/
def powFrom (m acc base exponent : Nat) : Nat :=
  if exponent = 0 then acc
  else
    let acc := if exponent % 2 = 1 then acc * base % m else acc
    powFrom m acc (base * base % m) (exponent / 2)

/-- `base ^ exponent` modulo `m`. -/
def pow (m base exponent : Nat) : Nat :=
  powFrom m (1 % m) (base % m) exponent

/-- A difference modulo `m` of numbers below it. -/
def sub (m a b : Nat) : Nat :=
  (a + m - b) % m

/-- The inverse modulo a prime of a number it does not divide. -/
def inverse (p a : Nat) : Nat :=
  pow p a (p - 2)

/-- A root modulo a prime that is 3 modulo 4, if there is one. -/
def root? (p a : Nat) : Option Nat :=
  let r := pow p a ((p + 1) / 4)
  if r * r % p = a % p then some r else none

end Modular
end TokenTrust

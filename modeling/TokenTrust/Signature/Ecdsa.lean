/-
# Signatures on elliptic curves

A signature is a pair of numbers between zero and the order of the curve, both excluded, each
written with the width of a coordinate.
-/
import TokenTrust.Curve.Group
import TokenTrust.Hash.Sha2

namespace TokenTrust
namespace Ecdsa

/-- The two numbers of a signature. -/
structure Pair where
  r : Nat
  s : Nat
  deriving DecidableEq, Repr

/-- The pair that octets stand for. -/
def pair? (name : CurveName) (signature : List UInt8) : Option Pair :=
  let r := Octets.value (signature.take name.width)
  let s := Octets.value (signature.drop name.width)
  let order := name.curve.order
  if signature.length = 2 * name.width ∧ 0 < r ∧ r < order ∧ 0 < s ∧ s < order then some ⟨r, s⟩
  else none

/-- The hash function that is used with a curve.  Its digest is not longer than the order. -/
def hash : CurveName → Sha2.Variant
  | .p256 => Sha2.sha256
  | .p384 => Sha2.sha384
  | .p521 => Sha2.sha512

/-- Whether octets are a signature of a message under a key. -/
def accepts (name : CurveName) (key : Point) (message signature : List UInt8) : Bool :=
  match pair? name signature with
  | none => false
  | some ⟨r, s⟩ =>
    let c := name.curve
    let z := Octets.value (Sha2.digest (hash name) message) % c.order
    let i := Modular.inverse c.order s
    match c.combination? (z * i % c.order) (r * i % c.order) key with
    | none => false
    | some p => p.x % c.order == r

end Ecdsa
end TokenTrust

/-
# Elliptic curves

The curves `y² = x³ - 3 x + b` over the integers modulo a prime that signatures use, and the
written form of their points.

A point is read from its octets in three forms: with both coordinates, with the first one and
whether the second is odd, or with the first one alone, which stands for the point whose second
coordinate is the lesser of the two.  A coordinate that is not below the prime is refused and not
reduced, and so is everything that is no point of the curve.  The neutral element of the group has
no coordinates and is no point here.
-/
import TokenTrust.Key.Algorithm
import TokenTrust.Number.Modular
import TokenTrust.Number.Octets

namespace TokenTrust

/-! ## 1. Parameters -/

/-- A curve of prime order with a generator. -/
structure Curve where
  /-- The prime of the coordinates. -/
  prime : Nat
  /-- The constant `b` of the equation. -/
  constant : Nat
  /-- How many points there are, the neutral element included. -/
  order : Nat
  /-- The coordinates of the generator. -/
  generator : Nat × Nat
  deriving DecidableEq, Repr

namespace CurveName

/-- The parameters of a curve. -/
def curve : CurveName → Curve
  | .p256 => {
      prime := 1 <<< 256 - 1 <<< 224 + 1 <<< 192 + 1 <<< 96 - 1
      constant := 0x5AC635D8AA3A93E7B3EBBD55769886BC651D06B0CC53B0F63BCE3C3E27D2604B
      order := 0xFFFFFFFF00000000FFFFFFFFFFFFFFFFBCE6FAADA7179E84F3B9CAC2FC632551
      generator := (
        0x6B17D1F2E12C4247F8BCE6E563A440F277037D812DEB33A0F4A13945D898C296,
        0x4FE342E2FE1A7F9B8EE7EB4A7C0F9E162BCE33576B315ECECBB6406837BF51F5) }
  | .p384 => {
      prime := 1 <<< 384 - 1 <<< 128 - 1 <<< 96 + 1 <<< 32 - 1
      constant := 0xB3312FA7E23EE7E4988E056BE3F82D19181D9C6EFE8141120314088F5013875A <<< 128 +
        0xC656398D8A2ED19D2A85C8EDD3EC2AEF
      order := 1 <<< 384 - 0x389CB27E0BC8D220A7E5F24DB74F58851313E695333AD68D
      generator := (
        0xAA87CA22BE8B05378EB1C71EF320AD746E1D3B628BA79B9859F741E082542A38 <<< 128 +
          0x5502F25DBF55296C3A545E3872760AB7,
        0x3617DE4A96262C6F5D9E98BF9292DC29F8F41DBD289A147CE9DA3113B5F0B8C0 <<< 128 +
          0x0A60B1CE1D7E819D7A431D7C90EA0E5F) }
  | .p521 => {
      prime := 1 <<< 521 - 1
      constant := 0x51953EB9618E1C9A1F929A21A0B68540EEA2DA725B99B315F3B8B489918EF109E1 <<< 256 +
        0x56193951EC7E937B1652C0BD3BB1BF073573DF883D2C34F1EF451FD46B503F00
      order := 1 <<< 521 - 0x5AE79787C40D069948033FEB708F65A2FC44A36477663B851449048E16EC79BF7
      generator := (
        0xC6858E06B70404E9CD9E3ECB662395B4429C648139053FB521F828AF606B4D3DBA <<< 256 +
          0xA14B5E77EFE75928FE1DC127A2FFA8DE3348B3C1856A429BF97E7E31C2E5BD66,
        0x11839296A789A3BC0045C8A5FB42C7D1BD998F54449579B446817AFBD17273E662C <<< 256 +
          0x97EE72995EF42640C550B9013FAD0761353C7086A272C24088BE94769FD16650) }

end CurveName

/-! ## 2. Points -/

/-- A pair of coordinates. -/
structure Point where
  x : Nat
  y : Nat
  deriving DecidableEq, Repr

namespace Curve

/-- The right-hand side of the equation, `x³ - 3 x + b`. -/
def rightSide (c : Curve) (x : Nat) : Nat :=
  Modular.sub c.prime ((x * x * x + c.constant) % c.prime) (3 * x % c.prime)

/-- Whether a pair of coordinates is a point of the curve. -/
def Contains (c : Curve) (p : Point) : Prop :=
  p.x < c.prime ∧ p.y < c.prime ∧ p.y * p.y % c.prime = c.rightSide p.x

instance (c : Curve) (p : Point) : Decidable (c.Contains p) :=
  inferInstanceAs (Decidable (_ ∧ _ ∧ _))

/-- The point with these coordinates. -/
def pointAt? (c : Curve) (x y : Nat) : Option Point :=
  if c.Contains ⟨x, y⟩ then some ⟨x, y⟩ else none

/-- The point with this first coordinate, of two the one whose second coordinate is odd or not. -/
def pointAbove? (c : Curve) (x : Nat) (odd : Bool) : Option Point := do
  if c.prime ≤ x then none
  let r ← Modular.root? c.prime (c.rightSide x)
  return ⟨x, if (r % 2 == 1) == odd then r else Modular.sub c.prime 0 r⟩

/-- The point with this first coordinate, of two the one whose second coordinate is less. -/
def lowerPointAbove? (c : Curve) (x : Nat) : Option Point :=
  (c.pointAbove? x true).map fun p => ⟨x, min p.y (Modular.sub c.prime 0 p.y)⟩

end Curve

/-! ## 3. Octets -/

/-- A point in octets, with both coordinates. -/
def Point.octets (width : Nat) (p : Point) : List UInt8 :=
  4 :: (Octets.fixed width p.x ++ Octets.fixed width p.y)

namespace CurveName

/-- The point of a curve that octets stand for. -/
def point? (name : CurveName) : List UInt8 → Option Point
  | [] => none
  | form :: coordinates =>
    if form = 4 then
      if coordinates.length = 2 * name.width then
        name.curve.pointAt? (Octets.value (coordinates.take name.width))
          (Octets.value (coordinates.drop name.width))
      else none
    else if form = 2 ∨ form = 3 then
      if coordinates.length = name.width then
        name.curve.pointAbove? (Octets.value coordinates) (form == 3)
      else none
    else if form = 5 then
      if coordinates.length = name.width then
        name.curve.lowerPointAbove? (Octets.value coordinates)
      else none
    else none

end CurveName
end TokenTrust

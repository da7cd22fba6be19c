/-
# The group of a curve

Sums and multiples of points.  The computation uses triples `(x, y, z)` that stand for the point
`(x / z², y / z³)`, and for the neutral element where `z` is zero, so that no step divides.
-/
import TokenTrust.Curve.Basic

namespace TokenTrust

/-- A point or the neutral element, in triples. -/
structure Triple where
  x : Nat
  y : Nat
  z : Nat
  deriving DecidableEq, Repr

namespace Triple

/-- The neutral element. -/
def zero : Triple := ⟨1, 1, 0⟩

/-- A point. -/
def ofPoint (p : Point) : Triple := ⟨p.x, p.y, 1⟩

/-- The point of a triple, if it is not the neutral element. -/
def point? (prime : Nat) (t : Triple) : Option Point :=
  if t.z % prime = 0 then none
  else
    let i := Modular.inverse prime t.z
    let ii := i * i % prime
    some ⟨t.x * ii % prime, t.y * (ii * i % prime) % prime⟩

/-- Twice a triple. -/
def double (prime : Nat) (t : Triple) : Triple :=
  let yy := t.y * t.y % prime
  let s := 4 * t.x * yy % prime
  let zz := t.z * t.z % prime
  let m := 3 * (t.x + zz) * Modular.sub prime t.x zz % prime
  let x := Modular.sub prime (m * m % prime) (2 * s % prime)
  let y := Modular.sub prime (m * Modular.sub prime s x % prime) (8 * yy * yy % prime)
  ⟨x, y, 2 * t.y * t.z % prime⟩

/-- The sum of two triples. -/
def add (prime : Nat) (t u : Triple) : Triple :=
  if t.z = 0 then u
  else if u.z = 0 then t
  else
    let tt := t.z * t.z % prime
    let uu := u.z * u.z % prime
    let x₁ := t.x * uu % prime
    let x₂ := u.x * tt % prime
    let y₁ := t.y * (uu * u.z % prime) % prime
    let y₂ := u.y * (tt * t.z % prime) % prime
    if x₁ = x₂ then if y₁ = y₂ then double prime t else zero
    else
      let h := Modular.sub prime x₂ x₁
      let r := Modular.sub prime y₂ y₁
      let hh := h * h % prime
      let hhh := hh * h % prime
      let v := x₁ * hh % prime
      let x := Modular.sub prime (Modular.sub prime (r * r % prime) hhh) (2 * v % prime)
      let y := Modular.sub prime (r * Modular.sub prime v x % prime) (y₁ * hhh % prime)
      ⟨x, y, t.z * u.z % prime * h % prime⟩

/-- A multiple of a triple, given the number of bits of the factor. -/
def multiple (prime : Nat) (t : Triple) (k : Nat) : Nat → Triple
  | 0 => zero
  | bits + 1 =>
    let twice := double prime (multiple prime t (k / 2) bits)
    if k % 2 = 1 then add prime twice t else twice

end Triple

namespace Curve

/-- The generator. -/
def basePoint (c : Curve) : Point := ⟨c.generator.1, c.generator.2⟩

/-- `a` times the generator and `b` times another point, added up.  The factors are below the
order. -/
def combination? (c : Curve) (a b : Nat) (q : Point) : Option Point :=
  let bits := c.order.log2 + 1
  (Triple.add c.prime (Triple.multiple c.prime (.ofPoint c.basePoint) a bits)
    (Triple.multiple c.prime (.ofPoint q) b bits)).point? c.prime

end Curve
end TokenTrust

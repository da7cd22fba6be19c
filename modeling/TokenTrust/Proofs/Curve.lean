/-
# What is read as a point is one

A point of a curve is read in three forms, and in each of them what is read satisfies the equation
of the curve (`CurveName.contains_of_point?`).  With both coordinates this is what is checked;
with one coordinate the other is a root, and a root is only taken if its square is right
(`Modular.root?_spec`).  The other root is the negative one and has the same square.
-/
import TokenTrust.Curve.Basic
import TokenTrust.Number.Laws

namespace TokenTrust

/-! ## 1. Roots -/

namespace Modular

theorem sub_lt {p a b : Nat} (hp : 0 < p) : sub p a b < p :=
  Nat.mod_lt _ hp

/-- **A root is a root**, and it is below the prime. -/
theorem root?_spec {p a r : Nat} (hp : 0 < p) (h : root? p a = some r) :
    r < p ∧ r * r % p = a % p := by
  simp only [root?] at h
  split at h
  · next hsq =>
    obtain rfl := Option.some.inj h
    refine ⟨?_, hsq⟩
    rw [pow_eq _ _ _ hp]
    exact Nat.mod_lt _ hp
  · exact nomatch h

/-- The negative of a number has the same square. -/
theorem sub_zero_mul_self {p r : Nat} (h : r < p) :
    sub p 0 r * sub p 0 r % p = r * r % p := by
  obtain ⟨d, rfl⟩ := Nat.exists_eq_add_of_le (Nat.le_of_lt h)
  have hd : 0 + (r + d) - r = d := by omega
  have hswap : d * d + (r + d) * r = r * r + (r + d) * d := by
    simp only [Nat.add_mul]
    rw [Nat.mul_comm r d]
    omega
  calc
    sub (r + d) 0 r * sub (r + d) 0 r % (r + d) = d * d % (r + d) := by
      rw [sub, hd, ← Nat.mul_mod]
    _ = (d * d + (r + d) * r) % (r + d) := (Nat.add_mul_mod_self_left _ _ _).symm
    _ = (r * r + (r + d) * d) % (r + d) := by rw [hswap]
    _ = r * r % (r + d) := Nat.add_mul_mod_self_left _ _ _

end Modular

/-! ## 2. Points -/

namespace Curve

variable {c : Curve} {p : Point}

theorem contains_of_pointAt? {x y : Nat} (h : c.pointAt? x y = some p) : c.Contains p := by
  simp only [pointAt?] at h
  split at h
  · next hc => exact Option.some.inj h ▸ hc
  · exact nomatch h

/-- With a point of a curve, its negative is one. -/
theorem Contains.negative (h : c.Contains p) : c.Contains ⟨p.x, Modular.sub c.prime 0 p.y⟩ := by
  obtain ⟨hx, hy, heq⟩ := h
  refine ⟨hx, Modular.sub_lt (Nat.lt_of_le_of_lt (Nat.zero_le _) hx), ?_⟩
  rw [Modular.sub_zero_mul_self hy]
  exact heq

/-- What is read above a first coordinate has this coordinate, and is a point. -/
theorem pointAbove?_spec {x : Nat} {odd : Bool} (h : c.pointAbove? x odd = some p) :
    p.x = x ∧ c.Contains p := by
  simp only [pointAbove?, Option.bind_eq_bind] at h
  split at h
  · exact nomatch h
  · next hx =>
    have hlt : x < c.prime := Nat.not_le.mp hx
    have hpos : 0 < c.prime := Nat.lt_of_le_of_lt (Nat.zero_le _) hlt
    obtain ⟨r, hr, hp⟩ := Option.bind_eq_some_iff.mp h
    obtain ⟨hrlt, hsq⟩ := Modular.root?_spec hpos hr
    have hside : c.rightSide x % c.prime = c.rightSide x :=
      Nat.mod_eq_of_lt (Modular.sub_lt hpos)
    have hroot : c.Contains ⟨x, r⟩ := ⟨hlt, hrlt, hsq.trans hside⟩
    obtain rfl := Option.some.inj hp
    refine ⟨rfl, ?_⟩
    by_cases hodd : ((r % 2 == 1) == odd) = true
    · simpa only [hodd, if_true] using hroot
    · simpa only [hodd, Bool.false_eq_true, if_false] using hroot.negative

theorem contains_of_lowerPointAbove? {x : Nat} (h : c.lowerPointAbove? x = some p) :
    c.Contains p := by
  obtain ⟨q, hq, rfl⟩ := Option.map_eq_some_iff.mp h
  obtain ⟨rfl, hc⟩ := pointAbove?_spec hq
  rcases Nat.le_total q.y (Modular.sub c.prime 0 q.y) with hle | hle
  · rw [Nat.min_eq_left hle]
    exact hc
  · rw [Nat.min_eq_right hle]
    exact hc.negative

end Curve

/-! ## 3. Octets -/

/-- **What octets stand for is a point of the curve.** -/
theorem CurveName.contains_of_point? {name : CurveName} {octets : List UInt8} {p : Point}
    (h : name.point? octets = some p) : name.curve.Contains p := by
  cases octets with
  | nil => exact nomatch h
  | cons form coordinates =>
    simp only [point?] at h
    split at h
    · split at h
      · exact Curve.contains_of_pointAt? h
      · exact nomatch h
    · split at h
      · split at h
        · exact (Curve.pointAbove?_spec h).2
        · exact nomatch h
      · split at h
        · split at h
          · exact Curve.contains_of_lowerPointAbove? h
          · exact nomatch h
        · exact nomatch h

end TokenTrust

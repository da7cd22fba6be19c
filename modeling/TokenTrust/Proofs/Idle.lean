/-
# Keys that no token can get

A key is idle if it is fit for no algorithm (`Key.Idle`).  A set picks fit keys only, so no token
ever gets such a key, and all it does is to hold its place.

Whether a key is fit depends on three things: its type, the algorithm that it is meant for, and the
curve of its components.  The judgement of an entry compares the algorithm with the type, and the
members that the entry has with those that a key of its type consists of, so the parts of a key that
an entry describes are of one type (`KeyDocument.Entry.Describes.coherent`).  It compares the curve
with nothing.

So there is one way for such a key to be idle (`Key.Coherent.exists_supports_iff`): its components
are on a curve that the algorithm which it is meant for does not need, or that no algorithm needs.
Every other key that a document is read as has an algorithm
(`KeyDocument.kept_serves_or_offCurve`).
-/
import Mathlib
import TokenTrust.Proofs.KeyDocument

namespace TokenTrust

/-- An algorithm that needs a curve. -/
def CurveName.algorithm : CurveName → Algorithm
  | .p256 => .es256
  | .p384 => .es384
  | .p521 => .es512

@[simp] theorem CurveName.curve?_algorithm (c : CurveName) : c.algorithm.curve? = some c := by
  cases c <;> rfl

@[simp] theorem CurveName.keyType_algorithm (c : CurveName) : c.algorithm.keyType = .ec := by
  cases c <;> rfl

/-- The algorithms of elliptic curves are those that need one. -/
theorem Algorithm.exists_curve?_iff {alg : Algorithm} :
    (∃ c, alg.curve? = some c) ↔ alg.keyType = .ec := by
  cases alg <;> simp [curve?, keyType]

namespace Key

variable {k : Key} {alg : Algorithm}

/-! ## 1. Idle keys -/

/-- **An idle key**: it is fit for no algorithm. -/
def Idle (k : Key) : Prop := ∀ alg, k.supports alg = false

/-- **A key off the curve**: it has components, and the curve that they name is not the one of the
algorithm that the key is meant for, or it is none of the curves of the algorithms. -/
inductive OffCurve (k : Key) : Prop
  | meant {alg : Algorithm} {c : CurveName} {name : String} (halg : k.algorithm = some alg)
    (hc : alg.curve? = some c) (hname : k.curveName? = some name) (hne : name ≠ c.name)
  | unknown {name : String} (halg : k.algorithm = none) (hname : k.curveName? = some name)
    (hne : ∀ c : CurveName, name ≠ c.name)

/-- **The parts of a key are of one type**: its algorithm and, if it names a curve, its
components. -/
structure Coherent (k : Key) : Prop where
  algorithm : ∀ alg, k.algorithm = some alg → alg.keyType = k.keyType
  curve : ∀ name, k.curveName? = some name → k.keyType = .ec

theorem idle_iff_not_exists : k.Idle ↔ ¬ ∃ alg, k.supports alg = true := by
  simp only [Idle, not_exists, Bool.not_eq_true]

/-- Curves agree unless two different ones are known. -/
theorem curveAgrees_iff : k.curveAgrees alg = true ↔
    ∀ name c, k.curveName? = some name → alg.curve? = some c → name = c.name := by
  rw [curveAgrees]
  cases k.curveName? with
  | none => simp
  | some name =>
    cases alg.curve? with
    | none => simp
    | some c => simp

/-- A key that names no curve is fit for what it is meant for. -/
theorem supports_of_no_curve (ht : k.keyType = alg.keyType)
    (halg : ∀ own, k.algorithm = some own → own = alg) (hno : k.curveName? = none) :
    k.supports alg = true := by
  refine supports_iff.mpr ⟨ht, halg, curveAgrees_iff.mpr fun name c hname => ?_⟩
  rw [hno] at hname
  exact nomatch hname

/-- **A key off the curve is idle.** -/
theorem OffCurve.idle (h : k.OffCurve) (hk : k.Coherent) : k.Idle := by
  intro alg
  rw [Bool.eq_false_iff]
  intro hfit
  obtain ⟨ht, hown, hcurve⟩ := supports_iff.mp hfit
  rw [curveAgrees_iff] at hcurve
  cases h with
  | meant halg hc hname hne =>
    obtain rfl := hown _ halg
    exact hne (hcurve _ _ hname hc)
  | unknown halg hname hne =>
    -- the key is on a curve, so the algorithm needs one
    obtain ⟨c, hc⟩ := Algorithm.exists_curve?_iff.mpr (ht ▸ hk.curve _ hname)
    exact hne c (hcurve _ _ hname hc)

namespace Coherent

/-- A key with an algorithm of its own is fit for it, unless it is off the curve. -/
theorem supports_own (hk : k.Coherent) (halg : k.algorithm = some alg) (h : ¬ k.OffCurve) :
    k.supports alg = true := by
  refine supports_iff.mpr ⟨(hk.algorithm _ halg).symm, fun own hown => ?_, ?_⟩
  · rw [halg] at hown
    exact (Option.some.inj hown).symm
  · rw [curveAgrees_iff]
    intro name c hname hc
    by_contra hne
    exact h (.meant halg hc hname hne)

/-- A key that is meant for any algorithm of its type is fit for one of them, unless it is off the
curve. -/
theorem exists_supports (hk : k.Coherent) (halg : k.algorithm = none) (h : ¬ k.OffCurve) :
    ∃ alg, k.supports alg = true := by
  have hfree : ∀ alg own, k.algorithm = some own → own = alg := by
    intro alg own hown
    rw [halg] at hown
    exact nomatch hown
  cases hname : k.curveName? with
  | none =>
    cases ht : k.keyType with
    | rsa => exact ⟨.rs256, supports_of_no_curve ht (hfree _) hname⟩
    | ec => exact ⟨.es256, supports_of_no_curve ht (hfree _) hname⟩
  | some name =>
    obtain ⟨c, rfl⟩ : ∃ c : CurveName, name = c.name := by
      by_contra hno
      exact h (.unknown halg hname fun c hc => hno ⟨c, hc⟩)
    refine ⟨c.algorithm, supports_iff.mpr ⟨?_, hfree _, curveAgrees_iff.mpr ?_⟩⟩
    · rw [hk.curve _ hname, CurveName.keyType_algorithm]
    · intro own needed hown hneeded
      rw [hname] at hown
      rw [CurveName.curve?_algorithm] at hneeded
      rw [← Option.some.inj hown, ← Option.some.inj hneeded]

/-- **A key whose parts are of one type is fit for something, unless it is off the curve.** -/
theorem exists_supports_iff (hk : k.Coherent) : (∃ alg, k.supports alg = true) ↔ ¬ k.OffCurve := by
  constructor
  · intro hfit hoff
    exact idle_iff_not_exists.mp (hoff.idle hk) hfit
  · intro h
    cases halg : k.algorithm with
    | none => exact hk.exists_supports halg h
    | some alg => exact ⟨alg, hk.supports_own halg h⟩

end Coherent
end Key

/-- **An idle key is never picked.** -/
theorem KeySet.select_ne_of_idle {s : KeySet} {k : Key} (h : k.Idle) (alg : Algorithm)
    (id : Option String) : s.select alg id ≠ .ok k := by
  intro hk
  have hfit := supports_of_select hk
  rw [h alg] at hfit
  exact nomatch hfit

namespace KeyDocument

open Json (Says)

variable {k : Key}

/-! ## 2. Keys of a document -/

/-- **The parts of a key that an entry describes are of one type.** -/
theorem Entry.Describes.coherent {e : Entry} (h : e.Describes k) : k.Coherent where
  algorithm alg halg := by
    have hmeant := h.algorithm
    rw [halg] at hmeant
    cases hmeant with
    | named _ ht => exact ht
  curve name hname := by
    have hmaterial := h.material
    revert hname hmaterial
    rw [Key.curveName?]
    generalize k.keyType = t
    generalize k.material = m
    intro hname hmaterial
    cases hmaterial with
    | text _ => exact nomatch hname
    | rsa _ _ _ => exact nomatch hname
    | ec _ _ _ _ => rfl

/-- The keys of a report are keys of entries. -/
theorem exists_judge_of_mem {vs : List Json.Value} (h : k ∈ (report vs).keys.keys) :
    ∃ v ∈ vs, judge v = .ok k := by
  rw [keys_report] at h
  obtain ⟨v, hv, hk⟩ := List.mem_filterMap.mp ((KeySet.sublist_ofList _).subset h)
  refine ⟨v, hv, ?_⟩
  cases hj : judge v with
  | error s => rw [hj] at hk; exact nomatch hk
  | ok l => rw [hj] at hk; rw [Option.some.inj hk]

theorem coherent_of_mem {document : List UInt8} {r : Report} (h : parse document = .ok r)
    (hk : k ∈ r.keys.keys) : k.Coherent := by
  rw [parse] at h
  cases hvs : Json.Reader.run entries document with
  | error f => rw [hvs] at h; cases h
  | ok vs =>
    rw [hvs] at h
    obtain rfl := Except.ok.inj h
    obtain ⟨v, -, hv⟩ := exists_judge_of_mem hk
    obtain ⟨e, -, he⟩ := judge_eq_ok_iff.mp hv
    exact he.coherent

/-- **Every key of a document serves, unless it is off the curve.**  A key that is kept is fit for
an algorithm exactly if it is not off the curve; and one that is off the curve, though it is kept,
is never picked. -/
theorem kept_serves_or_offCurve {document : List UInt8} {r : Report}
    (h : parse document = .ok r) {k : Key} (hk : k ∈ r.keys.keys) :
    ((∃ alg, k.supports alg = true) ↔ ¬ k.OffCurve) ∧
      (k.OffCurve → ∀ alg id, r.keys.select alg id ≠ .ok k) := by
  have hcoherent := coherent_of_mem h hk
  refine ⟨hcoherent.exists_supports_iff, fun hoff alg id => ?_⟩
  exact KeySet.select_ne_of_idle (hoff.idle hcoherent) alg id

/-- No blanks anywhere. -/
def Layout.dense : Layout :=
  let none : Blanks := ⟨[], Json.Reader.blank_nil⟩
  ⟨none, none, none, none, none, none, none⟩

/-- A key of two numbers and one on a curve that is not known are kept. -/
theorem kept_serves_or_offCurve_two :
    let texts := [
      Text.Utf8.bytes "\x7b\x22kty\x22:\x22RSA\x22,\x22n\x22:\x22AQAB\x22,\x22e\x22:\x22Aw\x22\x7d",
      Text.Utf8.bytes
        ("\x7b\x22kty\x22:\x22EC\x22,\x22crv\x22:\x22P-192\x22,\x22x\x22:\x22AQ\x22" ++
          ",\x22y\x22:\x22Ag\x22\x7d")]
    let k := Key.rsa none none "AQAB" "Aw"
    let l := Key.ec none none "P-192" "AQ" "Ag"
    ∃ r, parse (Layout.dense.document texts) = .ok r ∧ k ∈ r.keys.keys ∧ l ∈ r.keys.keys ∧
      (∃ alg, k.supports alg = true) ∧ l.OffCurve ∧
      ∀ alg id, r.keys.select alg id ≠ .ok l := by
  have hfirst : Says entryDepth (Text.Utf8.bytes
      "\x7b\x22kty\x22:\x22RSA\x22,\x22n\x22:\x22AQAB\x22,\x22e\x22:\x22Aw\x22\x7d")
      (.object [("e", .string "Aw"), ("kty", .string "RSA"), ("n", .string "AQAB")]) := by
    unfold Says
    cbv
  have hsecond : Says entryDepth (Text.Utf8.bytes
      ("\x7b\x22kty\x22:\x22EC\x22,\x22crv\x22:\x22P-192\x22,\x22x\x22:\x22AQ\x22" ++
        ",\x22y\x22:\x22Ag\x22\x7d"))
      (.object [("crv", .string "P-192"), ("kty", .string "EC"), ("x", .string "AQ"),
        ("y", .string "Ag")]) := by
    unfold Says
    cbv
  intro texts k l
  have hparse := Layout.dense.parse_document (.cons hfirst (.cons hsecond .nil))
  have hk : k ∈ [k, l] := List.mem_cons_self
  have hl : l ∈ [k, l] := List.mem_cons_of_mem _ List.mem_cons_self
  have hoff : l.OffCurve := .unknown rfl rfl (by intro c; cases c <;> decide)
  have hon : ¬ k.OffCurve := by
    intro h
    cases h with
    | meant halg => cases halg
    | unknown _ hname => cases hname
  exact ⟨_, hparse, hk, hl, (kept_serves_or_offCurve hparse hk).1.mpr hon, hoff,
    (kept_serves_or_offCurve hparse hl).2 hoff⟩

/-- **An idle key is kept, and takes the place of one that serves.**  The first entry is on a curve
that its algorithm does not need.  The second could be picked, but it has the same place and is
reported as a duplicate, so a token gets no key. -/
theorem idle_key_takes_place :
    let texts := [
      Text.Utf8.bytes
        ("\x7b\x22kty\x22:\x22EC\x22,\x22alg\x22:\x22ES256\x22,\x22crv\x22:\x22P-384\x22" ++
          ",\x22x\x22:\x22AQ\x22,\x22y\x22:\x22Ag\x22\x7d"),
      Text.Utf8.bytes
        ("\x7b\x22kty\x22:\x22EC\x22,\x22crv\x22:\x22P-256\x22,\x22x\x22:\x22AQ\x22" ++
          ",\x22y\x22:\x22Ag\x22\x7d")]
    let k := Key.ec (some .es256) none "P-384" "AQ" "Ag"
    let l := Key.ec none none "P-256" "AQ" "Ag"
    ∃ r, parse (Layout.dense.document texts) = .ok r ∧ r.keys.keys = [k] ∧ k.Idle ∧
      r.skipped = [⟨some l.id, some l.keyType.name, .duplicate⟩] ∧
      l.supports .es256 = true ∧ l.slot = k.slot ∧ ∀ alg id m, r.keys.select alg id ≠ .ok m := by
  have hfirst : Says entryDepth (Text.Utf8.bytes
      ("\x7b\x22kty\x22:\x22EC\x22,\x22alg\x22:\x22ES256\x22,\x22crv\x22:\x22P-384\x22" ++
        ",\x22x\x22:\x22AQ\x22,\x22y\x22:\x22Ag\x22\x7d"))
      (.object [("alg", .string "ES256"), ("crv", .string "P-384"), ("kty", .string "EC"),
        ("x", .string "AQ"), ("y", .string "Ag")]) := by
    unfold Says
    cbv
  have hsecond : Says entryDepth (Text.Utf8.bytes
      ("\x7b\x22kty\x22:\x22EC\x22,\x22crv\x22:\x22P-256\x22,\x22x\x22:\x22AQ\x22" ++
        ",\x22y\x22:\x22Ag\x22\x7d"))
      (.object [("crv", .string "P-256"), ("kty", .string "EC"), ("x", .string "AQ"),
        ("y", .string "Ag")]) := by
    unfold Says
    cbv
  intro texts k l
  have hparse := Layout.dense.parse_document (.cons hfirst (.cons hsecond .nil))
  have hidle : k.Idle := by
    intro alg
    cases alg <;> decide
  refine ⟨_, hparse, rfl, hidle, rfl, by decide, by decide, ?_⟩
  intro alg id m hm
  have hmem : m ∈ [k] := (KeySet.mem_supports_of_select hm).1
  obtain rfl := List.mem_singleton.mp hmem
  exact KeySet.select_ne_of_idle hidle alg id hm

end KeyDocument
end TokenTrust

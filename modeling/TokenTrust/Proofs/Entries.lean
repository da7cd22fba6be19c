/-
# What an entry of a key-set document is

A value of a document is an entry if its members are texts, `null` or missing, or if it lists all
of them (`KeyDocument.ReadsAs`).  An entry describes a key if it meets four conditions
(`KeyDocument.Entry.Describes`): its type is known, it is for signatures, its algorithm is one of
that type, and it has material.  Whole keys come before components.

The conditions are looked at in that order.  `KeyDocument.Entry.Fails` has a case for each of them,
in which the ones before are met, and that is the reason that is reported
(`KeyDocument.judge_exact`): an entry is passed over for the first thing that is wrong with it, and
the report has its own id and type as they are written.
-/
import Mathlib
import TokenTrust.KeySet.Document
import TokenTrust.Proofs.Keys

namespace TokenTrust

/-- A type has one name. -/
theorem KeyType.ofName?_eq_some_iff {name : String} {t : KeyType} :
    KeyType.ofName? name = some t ↔ name = t.name := by
  constructor
  · intro h
    rw [KeyType.ofName?] at h
    split at h
    · next hn => cases h; exact hn
    · split at h
      · next hn => cases h; exact hn
      · exact nomatch h
  · rintro rfl
    cases t <;> rfl

namespace KeyDocument

/-! ## 1. Values that are entries -/

/-- What a value gives where a text is expected: a text or, for `null`, nothing. -/
inductive Gives : Json.Value → Option String → Prop
  | text (s : String) : Gives (.string s) (some s)
  | null : Gives .null none

/-- What the members of an object give under a name. -/
inductive MemberGives (ms : Json.Members) (name : String) : Option String → Prop
  | missing (h : ms.get? name = none) : MemberGives ms name none
  | present {v : Json.Value} {t : Option String} (h : ms.get? name = some v) (ht : Gives v t) :
    MemberGives ms name t

/-- An entry, member by member. -/
structure MembersGive (ms : Json.Members) (e : Entry) : Prop where
  keyType : MemberGives ms "kty" e.keyType
  id : MemberGives ms "kid" e.id
  algorithm : MemberGives ms "alg" e.algorithm
  use : MemberGives ms "use" e.use
  modulus : MemberGives ms "n" e.modulus
  exponent : MemberGives ms "e" e.exponent
  curve : MemberGives ms "crv" e.curve
  x : MemberGives ms "x" e.x
  y : MemberGives ms "y" e.y
  value : MemberGives ms "value" e.value

/-- The members of an entry, in the order in which a list gives them. -/
def Entry.members (e : Entry) : List (Option String) :=
  [e.keyType, e.id, e.algorithm, e.use, e.modulus, e.exponent, e.curve, e.x, e.y, e.value]

/-- **A value reads as an entry**: an object by its members, whatever else it has, and a list by
the ten of them. -/
inductive ReadsAs : Json.Value → Entry → Prop
  | object {ms : Json.Members} {e : Entry} (h : MembersGive ms e) : ReadsAs (.object ms) e
  | array {items : List Json.Value} {e : Entry} (h : List.Forall₂ Gives items e.members) :
    ReadsAs (.array items) e

theorem textOrNull?_eq_some_iff {v : Json.Value} {t : Option String} :
    textOrNull? v = some t ↔ Gives v t := by
  constructor
  · intro h
    cases v with
    | string s => cases h; exact .text s
    | null => cases h; exact .null
    | bool b => exact nomatch h
    | number n => exact nomatch h
    | array items => exact nomatch h
    | object ms => exact nomatch h
  · intro h
    cases h with
    | text s => rfl
    | null => rfl

theorem member?_eq_some_iff {ms : Json.Members} {name : String} {t : Option String} :
    member? ms name = some t ↔ MemberGives ms name t := by
  rw [member?]
  cases hv : ms.get? name with
  | none =>
    constructor
    · intro h
      cases h
      exact .missing hv
    · intro h
      cases h with
      | missing _ => rfl
      | present hsome _ => rw [hv] at hsome; exact nomatch hsome
  | some v =>
    dsimp only
    rw [textOrNull?_eq_some_iff]
    constructor
    · exact .present hv
    · intro h
      cases h with
      | missing hnone => rw [hv] at hnone; exact nomatch hnone
      | present hsome ht =>
        obtain rfl := Option.some.inj (hv.symm.trans hsome)
        exact ht

theorem Entry.ofList?_eq_some_iff {ts : List (Option String)} {e : Entry} :
    Entry.ofList? ts = some e ↔ ts = e.members := by
  constructor
  · intro h
    unfold Entry.ofList? at h
    split at h
    · cases h; rfl
    · exact nomatch h
  · rintro rfl
    rfl

/-- Each of some values has a result, in order. -/
theorem mapM_eq_some_iff {α β : Type} {f : α → Option β} {as : List α} {bs : List β} :
    as.mapM f = some bs ↔ List.Forall₂ (fun a b => f a = some b) as bs := by
  induction as generalizing bs with
  | nil => simp [eq_comm]
  | cons a as ih =>
    rw [List.forall₂_cons_left_iff]
    simp only [List.mapM_cons, Option.bind_eq_bind, Option.bind_eq_some_iff, Option.pure_def,
      Option.some.injEq, ih]
    constructor
    · rintro ⟨b, hb, bs', hbs, rfl⟩
      exact ⟨b, bs', hb, hbs, rfl⟩
    · rintro ⟨b, bs', hb, hbs, rfl⟩
      exact ⟨b, hb, bs', hbs, rfl⟩

theorem ofValue?_eq_some_iff {v : Json.Value} {e : Entry} :
    Entry.ofValue? v = some e ↔ ReadsAs v e := by
  cases v with
  | object ms =>
    have hmembers : List.Forall₂ (fun name t => member? ms name = some t) memberNames e.members ↔
        MembersGive ms e := by
      simp only [memberNames, Entry.members, List.forall₂_cons, List.forall₂_nil_left_iff,
        member?_eq_some_iff, and_true]
      constructor
      · rintro ⟨h₁, h₂, h₃, h₄, h₅, h₆, h₇, h₈, h₉, h₁₀⟩
        exact ⟨h₁, h₂, h₃, h₄, h₅, h₆, h₇, h₈, h₉, h₁₀⟩
      · rintro ⟨h₁, h₂, h₃, h₄, h₅, h₆, h₇, h₈, h₉, h₁₀⟩
        exact ⟨h₁, h₂, h₃, h₄, h₅, h₆, h₇, h₈, h₉, h₁₀⟩
    simp only [Entry.ofValue?, Option.bind_eq_bind, Option.bind_eq_some_iff, mapM_eq_some_iff,
      Entry.ofList?_eq_some_iff, exists_eq_right, hmembers]
    exact ⟨.object, fun h => by cases h with | object h => exact h⟩
  | array items =>
    simp only [Entry.ofValue?, Option.bind_eq_bind, Option.bind_eq_some_iff, mapM_eq_some_iff,
      Entry.ofList?_eq_some_iff, exists_eq_right, textOrNull?_eq_some_iff]
    exact ⟨.array, fun h => by cases h with | array h => exact h⟩
  | null => exact ⟨(nomatch ·), (nomatch ·)⟩
  | bool b => exact ⟨(nomatch ·), (nomatch ·)⟩
  | number n => exact ⟨(nomatch ·), (nomatch ·)⟩
  | string s => exact ⟨(nomatch ·), (nomatch ·)⟩

/-! ## 2. Conditions -/

namespace Entry

variable {e : Entry} {t : KeyType}

/-- The type of an entry, which has to be spelled exactly. -/
def HasType (e : Entry) (t : KeyType) : Prop := e.keyType = some t.name

/-- An entry is for signatures if it does not say that it is for something else. -/
def ForSignatures (e : Entry) : Prop := ∀ use, e.use = some use → use = "sig"

/-- The id under which the key of an entry is kept: its own, or the default one if it has none or
an empty one. -/
inductive HasId (e : Entry) : String → Prop
  | own {i : String} (h : e.id = some i) (hne : i ≠ "") : HasId e i
  | default (h : e.id = none ∨ e.id = some "") : HasId e Key.defaultId

/-- The algorithm of an entry of a type: none, or one of the type. -/
inductive HasAlgorithm (e : Entry) (t : KeyType) : Option Algorithm → Prop
  | missing (h : e.algorithm = none) : HasAlgorithm e t none
  | named {a : Algorithm} (h : e.algorithm = some a.name) (ht : a.keyType = t) :
    HasAlgorithm e t (some a)

/-- The whole key of an entry: a text that is not blank. -/
def HasText (e : Entry) (s : String) : Prop := e.value = some s ∧ Text.hasInk s = true

/-- The material of an entry of a type: a whole key or, if there is none, all components. -/
inductive HasMaterial (e : Entry) : KeyType → Material → Prop
  | text {t : KeyType} {s : String} (h : e.HasText s) : HasMaterial e t (.text s)
  | rsa {n x : String} (hno : ∀ s, ¬ e.HasText s) (hn : e.modulus = some n)
    (hx : e.exponent = some x) : HasMaterial e .rsa (.rsa n x)
  | ec {curve x y : String} (hno : ∀ s, ¬ e.HasText s) (hcurve : e.curve = some curve)
    (hx : e.x = some x) (hy : e.y = some y) : HasMaterial e .ec (.ec curve x y)

/-- **The key that an entry describes.** -/
structure Describes (e : Entry) (k : Key) : Prop where
  keyType : e.HasType k.keyType
  use : e.ForSignatures
  algorithm : e.HasAlgorithm k.keyType k.algorithm
  id : e.HasId k.id
  material : e.HasMaterial k.keyType k.material

/-- **The first thing that is wrong with an entry.** -/
inductive Fails (e : Entry) : Reason → Prop
  | keyType (h : ∀ t, ¬ e.HasType t) : Fails e .unsupportedKeyType
  | use {t : KeyType} (ht : e.HasType t) (h : ¬ e.ForSignatures) : Fails e .notForSignature
  | algorithm {t : KeyType} (ht : e.HasType t) (hu : e.ForSignatures)
    (h : ∀ a, ¬ e.HasAlgorithm t a) : Fails e .unsupportedAlgorithm
  | material {t : KeyType} {a : Option Algorithm} (ht : e.HasType t) (hu : e.ForSignatures)
    (ha : e.HasAlgorithm t a) (h : ∀ m, ¬ e.HasMaterial t m) : Fails e .missingKeyMaterial

/-! ## 3. What is looked at -/

theorem bind_ofName?_eq_some_iff : e.keyType.bind KeyType.ofName? = some t ↔ e.HasType t := by
  simp only [Option.bind_eq_some_iff, KeyType.ofName?_eq_some_iff, HasType]
  exact ⟨fun ⟨name, hname, h⟩ => h ▸ hname, fun h => ⟨_, h, rfl⟩⟩

theorem any_use_eq_true_iff : e.use.any (· ≠ "sig") = true ↔ ¬ e.ForSignatures := by
  rw [ForSignatures]
  cases e.use <;> simp

theorem effectiveId_eq_iff {i : String} : Key.effectiveId e.id = i ↔ e.HasId i := by
  cases hid : e.id with
  | none =>
    constructor
    · rintro rfl
      exact .default (.inl hid)
    · intro h
      cases h with
      | own h _ => rw [hid] at h; exact nomatch h
      | default _ => rfl
  | some own =>
    by_cases hown : own = ""
    · subst hown
      constructor
      · rintro rfl
        exact .default (.inr hid)
      · intro h
        cases h with
        | own h hne => exact absurd (Option.some.inj (h.symm.trans hid)) hne
        | default _ => rfl
    · have hkept : Key.effectiveId (some own) = own := if_neg (by simpa using hown)
      rw [hkept]
      constructor
      · rintro rfl
        exact .own hid hown
      · intro h
        cases h with
        | own h _ => exact Option.some.inj (hid.symm.trans h)
        | default h => simp [hid, hown] at h

theorem algorithmFor_eq_ok_iff {a : Option Algorithm} :
    e.algorithmFor t = .ok a ↔ e.HasAlgorithm t a := by
  rw [algorithmFor]
  cases hname : e.algorithm with
  | none =>
    constructor
    · intro h
      cases h
      exact .missing hname
    · intro h
      cases h with
      | missing _ => rfl
      | named h _ => rw [hname] at h; exact nomatch h
  | some name =>
    dsimp only
    constructor
    · intro h
      split at h
      · next b hb =>
        split at h
        · next ht =>
          cases h
          exact .named (by rw [hname, Algorithm.ofName?_eq_some_iff.mp hb]) ht
        · exact nomatch h
      · exact nomatch h
    · intro h
      cases h with
      | missing h => rw [hname] at h; exact nomatch h
      | @named b h ht =>
        rw [hname, Option.some.injEq] at h
        rw [Algorithm.ofName?_eq_some_iff.mpr h.symm]
        exact if_pos ht

/-- Without an algorithm of the type, there is one reason. -/
theorem algorithmFor_eq_error_iff {r : Reason} :
    e.algorithmFor t = .error r ↔ r = .unsupportedAlgorithm ∧ ∀ a, ¬ e.HasAlgorithm t a := by
  have honly : ∀ q, e.algorithmFor t = .error q → q = .unsupportedAlgorithm := by
    intro q h
    unfold algorithmFor at h
    split at h
    · exact nomatch h
    · split at h
      · split at h
        · exact nomatch h
        · exact (Except.error.inj h).symm
      · exact (Except.error.inj h).symm
  simp only [← algorithmFor_eq_ok_iff]
  cases h : e.algorithmFor t with
  | ok a => simp
  | error q => simp [honly q h, eq_comm]

theorem filter_value_eq_some_iff {s : String} :
    e.value.filter Text.hasInk = some s ↔ e.HasText s :=
  Option.filter_eq_some_iff

theorem filter_value_eq_none_iff : e.value.filter Text.hasInk = none ↔ ∀ s, ¬ e.HasText s := by
  simp only [Option.eq_none_iff_forall_ne_some, ne_eq, filter_value_eq_some_iff]

/-- The material of an entry is that of a key of its type. -/
theorem HasMaterial.suits {m : Material} (h : e.HasMaterial t m) : m.suits t = true := by
  cases h with
  | text => exact Material.suits_text _ _
  | rsa => exact Material.suits_rsa _ _
  | ec => exact Material.suits_ec _ _ _

theorem materialFor_eq_ok_iff {m : Material} (hm : m.suits t = true) :
    e.materialFor t = .ok ⟨m, hm⟩ ↔ e.HasMaterial t m := by
  unfold materialFor
  constructor
  · intro h
    split at h
    · next s hs => cases h; exact .text (filter_value_eq_some_iff.mp hs)
    · next hs =>
      have hno := filter_value_eq_none_iff.mp hs
      cases t with
      | rsa =>
        dsimp only at h
        split at h
        · next n x hn hx => cases h; exact .rsa hno hn hx
        · exact nomatch h
      | ec =>
        dsimp only at h
        split at h
        · next curve x y hcurve hx hy => cases h; exact .ec hno hcurve hx hy
        · exact nomatch h
  · intro h
    cases h with
    | text h => rw [filter_value_eq_some_iff.mpr h]
    | rsa hno hn hx => rw [filter_value_eq_none_iff.mpr hno]; simp only [hn, hx]
    | ec hno hcurve hx hy => rw [filter_value_eq_none_iff.mpr hno]; simp only [hcurve, hx, hy]

/-- Without material, there is one reason. -/
theorem materialFor_eq_error_iff {r : Reason} :
    e.materialFor t = .error r ↔ r = .missingKeyMaterial ∧ ∀ m, ¬ e.HasMaterial t m := by
  have honly : ∀ q, e.materialFor t = .error q → q = .missingKeyMaterial := by
    intro q h
    unfold materialFor at h
    split at h
    · exact nomatch h
    · cases t with
      | rsa =>
        dsimp only at h
        split at h
        · exact nomatch h
        · exact (Except.error.inj h).symm
      | ec =>
        dsimp only at h
        split at h
        · exact nomatch h
        · exact (Except.error.inj h).symm
  constructor
  · intro h
    refine ⟨honly r h, fun m hm => ?_⟩
    exact nomatch h.symm.trans ((materialFor_eq_ok_iff hm.suits).mpr hm)
  · rintro ⟨rfl, hnone⟩
    cases h : e.materialFor t with
    | ok m => exact absurd ((materialFor_eq_ok_iff m.2).mp h) (hnone m.1)
    | error q => rw [honly q h]

/-! ## 4. Judgement -/

/-- An entry has one type at most. -/
theorem HasType.inj {t' : KeyType} (h : e.HasType t) (h' : e.HasType t') : t = t' :=
  Option.some.inj (bind_ofName?_eq_some_iff.mpr h ▸ bind_ofName?_eq_some_iff.mpr h')

theorem key_of_no_type (h : ∀ t, ¬ e.HasType t) : e.key = .error .unsupportedKeyType := by
  have hnone : e.keyType.bind KeyType.ofName? = none := by
    simp only [Option.eq_none_iff_forall_ne_some, ne_eq, bind_ofName?_eq_some_iff]
    exact h
  rw [key, hnone]
  rfl

theorem key_of_other_use (ht : e.HasType t) (h : ¬ e.ForSignatures) :
    e.key = .error .notForSignature := by
  rw [key, bind_ofName?_eq_some_iff.mpr ht]
  simp only [any_use_eq_true_iff.mpr h, if_true]
  rfl

/-- Of an entry with a type that is for signatures, algorithm and material are left to look at. -/
theorem key_of_type (ht : e.HasType t) (hu : e.ForSignatures) :
    e.key = do
      let algorithm ← e.algorithmFor t
      let material ← e.materialFor t
      return ⟨t, algorithm, Key.effectiveId e.id, material.1, material.2⟩ := by
  have hno : ¬ e.use.any (· ≠ "sig") = true := fun h => any_use_eq_true_iff.mp h hu
  rw [key, bind_ofName?_eq_some_iff.mpr ht]
  simp only [if_neg hno]

/-- An entry that is described by a key has it. -/
theorem Describes.key_eq {k : Key} (h : e.Describes k) : e.key = .ok k := by
  rw [key_of_type h.keyType h.use, algorithmFor_eq_ok_iff.mpr h.algorithm,
    (materialFor_eq_ok_iff k.suited).mpr h.material]
  cases k with
  | mk keyType algorithm id material suited =>
    obtain rfl := effectiveId_eq_iff.mpr h.id
    rfl

/-- An entry with something wrong is refused for the first such thing. -/
theorem Fails.key_eq {r : Reason} (h : e.Fails r) : e.key = .error r := by
  cases h with
  | keyType h => exact key_of_no_type h
  | use ht h => exact key_of_other_use ht h
  | algorithm ht hu h =>
    rw [key_of_type ht hu, algorithmFor_eq_error_iff.mpr ⟨rfl, h⟩]
    rfl
  | material ht hu ha h =>
    rw [key_of_type ht hu, algorithmFor_eq_ok_iff.mpr ha, materialFor_eq_error_iff.mpr ⟨rfl, h⟩]
    rfl

/-- **Every entry is described by a key or has something wrong.** -/
theorem describes_or_fails (e : Entry) : (∃ k, e.Describes k) ∨ ∃ r, e.Fails r := by
  by_cases htype : ∃ t, e.HasType t
  · obtain ⟨t, ht⟩ := htype
    by_cases hu : e.ForSignatures
    · cases ha : e.algorithmFor t with
      | error r => exact .inr ⟨_, .algorithm ht hu (algorithmFor_eq_error_iff.mp ha).2⟩
      | ok a =>
        have halgorithm := algorithmFor_eq_ok_iff.mp ha
        cases hm : e.materialFor t with
        | error r =>
          exact .inr ⟨_, .material ht hu halgorithm (materialFor_eq_error_iff.mp hm).2⟩
        | ok m =>
          exact .inl ⟨⟨t, a, _, m.1, m.2⟩, ht, hu, halgorithm, effectiveId_eq_iff.mp rfl,
            (materialFor_eq_ok_iff m.2).mp hm⟩
    · exact .inr ⟨_, .use ht hu⟩
  · exact .inr ⟨_, .keyType fun t h => htype ⟨t, h⟩⟩

theorem key_eq_ok_iff {k : Key} : e.key = .ok k ↔ e.Describes k := by
  refine ⟨fun h => ?_, Describes.key_eq⟩
  rcases e.describes_or_fails with ⟨l, hl⟩ | ⟨r, hr⟩
  · obtain rfl := Except.ok.inj (h.symm.trans hl.key_eq)
    exact hl
  · exact nomatch h.symm.trans hr.key_eq

theorem key_eq_error_iff {r : Reason} : e.key = .error r ↔ e.Fails r := by
  refine ⟨fun h => ?_, Fails.key_eq⟩
  rcases e.describes_or_fails with ⟨k, hk⟩ | ⟨q, hq⟩
  · exact nomatch h.symm.trans hk.key_eq
  · obtain rfl := Except.error.inj (h.symm.trans hq.key_eq)
    exact hq

end Entry

/-- **What is reported of a value that is passed over**: nothing of it if it is no entry, and else
its id and its type, as they are written, and the first thing that is wrong with it. -/
inductive Refused (v : Json.Value) : Skipped → Prop
  | malformed (h : ∀ e, ¬ ReadsAs v e) : Refused v ⟨none, none, .malformed⟩
  | entry {e : Entry} {r : Reason} (he : ReadsAs v e) (h : e.Fails r) :
    Refused v ⟨e.id, e.keyType, r⟩

theorem judge_of_readsAs {v : Json.Value} {e : Entry} (h : ReadsAs v e) :
    judge v = e.key.mapError fun reason => ⟨e.id, e.keyType, reason⟩ := by
  rw [judge, ofValue?_eq_some_iff.mpr h]

theorem judge_of_not_readsAs {v : Json.Value} (h : ∀ e, ¬ ReadsAs v e) :
    judge v = .error ⟨none, none, .malformed⟩ := by
  have hnone : Entry.ofValue? v = none := by
    simp only [Option.eq_none_iff_forall_ne_some, ne_eq, ofValue?_eq_some_iff]
    exact h
  rw [judge, hnone]

/-- A value is one entry at most. -/
theorem ReadsAs.inj {v : Json.Value} {e e' : Entry} (h : ReadsAs v e) (h' : ReadsAs v e') :
    e = e' :=
  Option.some.inj (ofValue?_eq_some_iff.mpr h ▸ ofValue?_eq_some_iff.mpr h')

theorem judge_eq_ok_iff {v : Json.Value} {k : Key} :
    judge v = .ok k ↔ ∃ e, ReadsAs v e ∧ e.Describes k := by
  by_cases hreads : ∃ e, ReadsAs v e
  · obtain ⟨e, he⟩ := hreads
    rw [judge_of_readsAs he, mapError_eq_ok_iff, Entry.key_eq_ok_iff]
    exact ⟨fun h => ⟨e, he, h⟩, fun ⟨e', he', h⟩ => he'.inj he ▸ h⟩
  · rw [judge_of_not_readsAs fun e he => hreads ⟨e, he⟩]
    exact ⟨(nomatch ·), fun ⟨e, he, _⟩ => absurd ⟨e, he⟩ hreads⟩

theorem judge_eq_error_iff {v : Json.Value} {s : Skipped} : judge v = .error s ↔ Refused v s := by
  constructor
  · intro h
    by_cases hreads : ∃ e, ReadsAs v e
    · obtain ⟨e, he⟩ := hreads
      rw [judge_of_readsAs he] at h
      cases hk : e.key with
      | ok k =>
        rw [hk] at h
        exact nomatch h
      | error r =>
        rw [hk] at h
        cases h
        exact .entry he (Entry.key_eq_error_iff.mp hk)
    · have hno : ∀ e, ¬ ReadsAs v e := fun e he => hreads ⟨e, he⟩
      rw [judge_of_not_readsAs hno] at h
      cases h
      exact .malformed hno
  · intro h
    cases h with
    | malformed hno => exact judge_of_not_readsAs hno
    | entry he hf =>
      rw [judge_of_readsAs he, hf.key_eq]
      rfl

/-- **Entries are classified exactly.**  A value has a key if it reads as an entry that describes
it, and any other is reported with the first thing that is wrong with it. -/
theorem judge_exact (v : Json.Value) :
    (∀ k, judge v = .ok k ↔ ∃ e, ReadsAs v e ∧ e.Describes k) ∧
      ∀ s, judge v = .error s ↔ Refused v s :=
  ⟨fun _ => judge_eq_ok_iff, fun _ => judge_eq_error_iff⟩

end KeyDocument
end TokenTrust

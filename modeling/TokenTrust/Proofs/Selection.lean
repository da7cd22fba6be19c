/-
# Which key is picked

Type and id are the place of a key in a set (`Key.slot`), and a set has one key at a place: the
first that claimed it (`KeySet.find?_ofList`).  So looking for a place finds the key that is there
(`KeySet.find?_eq_some_iff`), and whether a key may be picked can be said without an order
(`KeySet.select_exact`): the key at the place that the token names; for a token that names none, the
key at the default place, or else the only key that is fit.  Where no two keys compete for a place,
the set may be listed in any order.

A key is published with an id, or without one.  It is kept under that id, and found under it, with
one exception: an empty id is replaced when a key is made and is not when a key is looked for, so a
key that is published with it is found only by who names no id (`Publication.found_as_published`).
-/
import Mathlib
import TokenTrust.Proofs.Keys

namespace TokenTrust

/-! ## 1. Places -/

namespace Key

/-- The place of a key in a set. -/
def slot (k : Key) : KeyType × String := (k.keyType, k.id)

theorem sameSlot_iff {k l : Key} : k.sameSlot l = true ↔ k.slot = l.slot := by
  simp [sameSlot, slot]

/-- A key that is fit for an algorithm is of its type. -/
theorem keyType_of_supports {k : Key} {alg : Algorithm} (h : k.supports alg = true) :
    k.keyType = alg.keyType :=
  (supports_iff.mp h).1

end Key

namespace KeySet

variable {s : KeySet} {k : Key}

/-- The places of a set that are taken. -/
def slots (s : KeySet) : List (KeyType × String) := s.keys.map Key.slot

theorem any_sameSlot_iff : s.keys.any (k.sameSlot ·) = true ↔ k.slot ∈ s.slots := by
  simp only [List.any_eq_true, Key.sameSlot_iff, slots, List.mem_map]
  exact exists_congr fun l => and_congr_right fun _ => eq_comm

/-- A key whose place is taken is not inserted. -/
theorem insert?_of_mem (h : k.slot ∈ s.slots) : s.insert? k = none :=
  if_pos (any_sameSlot_iff.mpr h)

/-- Any other comes last. -/
theorem insert?_of_notMem (h : k.slot ∉ s.slots) : s.insert? k = some ⟨s.keys ++ [k]⟩ :=
  if_neg fun ha => h (any_sameSlot_iff.mp ha)

theorem insert_of_mem (h : k.slot ∈ s.slots) : s.insert k = s := by
  rw [insert, insert?_of_mem h, Option.getD_none]

theorem keys_insert_of_notMem (h : k.slot ∉ s.slots) : (s.insert k).keys = s.keys ++ [k] := by
  rw [insert, insert?_of_notMem h, Option.getD_some]

theorem nodup_insert (h : s.slots.Nodup) (k : Key) : (s.insert k).slots.Nodup := by
  by_cases hk : k.slot ∈ s.slots
  · rwa [insert_of_mem hk]
  · rw [slots, keys_insert_of_notMem hk, List.map_append]
    exact h.append (List.nodup_singleton _) (by simpa [slots] using hk)

/-! ## 2. Sets of lists -/

theorem ofList_concat (ks : List Key) (k : Key) :
    ofList (ks ++ [k]) = (ofList ks).insert k := by
  rw [ofList, List.foldl_append]
  rfl

/-- **A place has one key.** -/
theorem nodup_ofList (ks : List Key) : (ofList ks).slots.Nodup := by
  induction ks using List.reverseRecOn with
  | nil => exact List.nodup_nil
  | append_singleton ks k ih =>
    rw [ofList_concat]
    exact nodup_insert ih k

/-- Keys stay in the order of the list. -/
theorem sublist_ofList (ks : List Key) : (ofList ks).keys.Sublist ks := by
  induction ks using List.reverseRecOn with
  | nil => exact List.Sublist.slnil
  | append_singleton ks k ih =>
    rw [ofList_concat]
    by_cases hk : k.slot ∈ (ofList ks).slots
    · rw [insert_of_mem hk]
      exact ih.trans (List.sublist_append_left ks [k])
    · rw [keys_insert_of_notMem hk]
      exact ih.append (List.Sublist.refl [k])

/-- A list in which no two keys compete is kept as it is. -/
theorem keys_ofList {ks : List Key} (h : (ks.map Key.slot).Nodup) : (ofList ks).keys = ks := by
  induction ks using List.reverseRecOn with
  | nil => rfl
  | append_singleton ks k ih =>
    rw [List.map_append, List.nodup_append] at h
    have hks := ih h.1
    have hk : k.slot ∉ (ofList ks).slots := by
      rw [slots, hks]
      exact fun hmem => h.2.2 _ hmem _ (List.mem_singleton_self k.slot) rfl
    rw [ofList_concat, keys_insert_of_notMem hk, hks]

section Places

variable {p : Key → Bool} (hp : ∀ k l : Key, k.slot = l.slot → p k = p l)
include hp

/-- What is asked of places is answered alike with a key that was kept out. -/
theorem find?_insert (s : KeySet) (k : Key) :
    (s.insert k).keys.find? p = (s.keys ++ [k]).find? p := by
  by_cases hk : k.slot ∈ s.slots
  · rw [insert_of_mem hk, List.find?_append]
    cases hfound : s.keys.find? p with
    | some l => rfl
    | none =>
      obtain ⟨l, hl, hlk⟩ := List.mem_map.mp hk
      have hpk : p k = false := by
        rw [← hp l k hlk]
        simpa using List.find?_eq_none.mp hfound l hl
      simp [hpk]
  · rw [keys_insert_of_notMem hk]

/-- **The first key at a place is the one that is there.** -/
theorem find?_ofList (ks : List Key) : (ofList ks).keys.find? p = ks.find? p := by
  induction ks using List.reverseRecOn with
  | nil => rfl
  | append_singleton ks k ih =>
    rw [ofList_concat, find?_insert hp, List.find?_append, List.find?_append, ih]

end Places

/-! ## 3. Looking at a place -/

/-- The first key of some at a place. -/
def firstAt (place : KeyType × String) (ks : List Key) : Option Key :=
  ks.find? (·.slot = place)

/-- To look for a type and an id is to look at a place. -/
theorem find?_eq_firstAt (s : KeySet) (keyType : KeyType) (id : Option String) :
    s.find? keyType id = firstAt (keyType, id.getD Key.defaultId) s.keys := by
  rw [find?, firstAt]
  congr 1
  funext k
  rw [Bool.eq_iff_iff]
  simp [Key.slot]

theorem firstAt_ofList (place : KeyType × String) (ks : List Key) :
    firstAt place (ofList ks).keys = firstAt place ks :=
  find?_ofList (fun k l h => by rw [h]) ks

theorem firstAt_eq_none_iff {place : KeyType × String} {ks : List Key} :
    firstAt place ks = none ↔ place ∉ ks.map Key.slot := by
  simp [firstAt, List.mem_map]

/-- **The key at a place is found**, whatever stands before it. -/
theorem firstAt_eq_some_iff {place : KeyType × String} (h : s.slots.Nodup) :
    firstAt place s.keys = some k ↔ k ∈ s.keys ∧ k.slot = place := by
  constructor
  · intro hk
    exact ⟨List.mem_of_find?_eq_some hk, by simpa using List.find?_some hk⟩
  · rintro ⟨hk, rfl⟩
    cases hl : firstAt k.slot s.keys with
    | none => exact absurd (List.mem_map_of_mem hk) (firstAt_eq_none_iff.mp hl)
    | some l =>
      have hslot : l.slot = k.slot := by simpa using List.find?_some hl
      rw [List.inj_on_of_nodup_map h (List.mem_of_find?_eq_some hl) hk hslot]

theorem supporting?_eq_some_iff {alg : Algorithm} {id : Option String} (h : s.slots.Nodup) :
    s.supporting? alg id = some k ↔
      k ∈ s.keys ∧ k.keyType = alg.keyType ∧ k.id = id.getD Key.defaultId ∧
        k.supports alg = true := by
  rw [supporting?, Option.filter_eq_some_iff, find?_eq_firstAt, firstAt_eq_some_iff h, Key.slot,
    Prod.mk.injEq, and_assoc, and_assoc]

/-! ## 4. Picking -/

/-- **The only one**: a key of the set that is fit while no other is. -/
def Only (s : KeySet) (alg : Algorithm) (k : Key) : Prop :=
  k ∈ s.keys ∧ k.supports alg = true ∧ ∀ l ∈ s.keys, l.supports alg = true → l = k

/-- **The default key**: the key without an id of its own, if it is fit. -/
def Default (s : KeySet) (alg : Algorithm) (k : Key) : Prop :=
  k ∈ s.keys ∧ k.keyType = alg.keyType ∧ k.id = Key.defaultId ∧ k.supports alg = true

/-- One candidate is the only one. -/
theorem candidates_eq_singleton_iff {alg : Algorithm} (h : s.slots.Nodup) :
    s.candidates alg = [k] ↔ s.Only alg k := by
  have hnodup : (s.candidates alg).Nodup := h.of_map.filter _
  have hmem : ∀ l, l ∈ s.candidates alg ↔ l ∈ s.keys ∧ l.supports alg = true := fun l =>
    List.mem_filter
  constructor
  · intro hk
    simp only [hk, List.mem_singleton] at hmem
    obtain ⟨hkeys, hfit⟩ := (hmem k).mp rfl
    exact ⟨hkeys, hfit, fun l hl hlfit => (hmem l).mpr ⟨hl, hlfit⟩⟩
  · rintro ⟨hkeys, hfit, honly⟩
    have hperm : (s.candidates alg).Perm [k] := by
      rw [List.perm_ext_iff_of_nodup hnodup (List.nodup_singleton k)]
      intro l
      rw [hmem, List.mem_singleton]
      exact ⟨fun hl => honly l hl.1 hl.2, fun hl => hl ▸ ⟨hkeys, hfit⟩⟩
    exact List.perm_singleton.mp hperm

theorem select_id_eq_ok_iff {alg : Algorithm} {id : String} (h : s.slots.Nodup) :
    s.select alg (some id) = .ok k ↔
      k ∈ s.keys ∧ k.keyType = alg.keyType ∧ k.id = id ∧ k.supports alg = true := by
  rw [select_eq_ok_iff, pick]
  have hsome : s.supporting? alg (some id) = some k ↔
      k ∈ s.keys ∧ k.keyType = alg.keyType ∧ k.id = id ∧ k.supports alg = true :=
    supporting?_eq_some_iff h
  rw [← hsome]
  cases s.supporting? alg (some id) <;> simp

theorem select_none_eq_ok_iff {alg : Algorithm} (h : s.slots.Nodup) :
    s.select alg none = .ok k ↔
      s.Default alg k ∨ (∀ d, ¬ s.Default alg d) ∧ s.Only alg k := by
  have hdefault : ∀ d, s.supporting? alg none = some d ↔ s.Default alg d := fun d =>
    supporting?_eq_some_iff h
  rw [select_eq_ok_iff, pick]
  cases hd : s.supporting? alg none with
  | some d =>
    -- the default key is there, so no other is asked for
    have hthere := (hdefault d).mp hd
    have hk : s.Default alg k ↔ d = k := by rw [← hdefault, hd, Option.some.injEq]
    simp only [Except.ok.injEq, hk]
    exact ⟨.inl, fun hor => hor.resolve_right fun hno => hno.1 d hthere⟩
  | none =>
    have hno : ∀ d, ¬ s.Default alg d := fun d hthere => by
      simpa [hd] using (hdefault d).mpr hthere
    have honly : (∀ d, ¬ s.Default alg d) ∧ s.Only alg k ↔ s.candidates alg = [k] := by
      rw [candidates_eq_singleton_iff h]
      exact and_iff_right hno
    rw [honly, or_iff_right (hno k)]
    cases hc : s.candidates alg with
    | nil => simp
    | cons a rest =>
      cases rest with
      | nil => simp
      | cons b rest => simp

/-- A set that picks no key says that there is no matching one. -/
theorem error_of_select_ne_ok {alg : Algorithm} {id : Option String}
    (h : ∀ k, s.select alg id ≠ .ok k) :
    ∃ message, s.select alg id = .error (.noMatchingKey message) := by
  rw [select] at h ⊢
  cases hp : s.pick alg id with
  | error why => exact ⟨_, rfl⟩
  | ok k => exact absurd (by rw [hp]; rfl) (h k)

/-! ## 5. Any order -/

section Order

variable {t : KeySet} (hs : s.slots.Nodup) (h : s.keys.Perm t.keys)
include hs h

theorem supporting?_perm (alg : Algorithm) (id : Option String) :
    s.supporting? alg id = t.supporting? alg id := by
  have ht : t.slots.Nodup := (h.map Key.slot).nodup_iff.mp hs
  refine Option.ext fun k => ?_
  rw [supporting?_eq_some_iff hs, supporting?_eq_some_iff ht, h.mem_iff]

/-- **Sets with the same keys pick the same key**, or none for the same reason. -/
theorem select_perm (alg : Algorithm) (id : Option String) : s.select alg id = t.select alg id := by
  have hcandidates : (s.candidates alg).Perm (t.candidates alg) := h.filter _
  have hpick : s.pick alg id = t.pick alg id := by
    cases id with
    | some id => rw [pick, pick, supporting?_perm hs h]
    | none =>
      rw [pick, pick, supporting?_perm hs h]
      cases t.supporting? alg none with
      | some k => rfl
      | none =>
        cases ht : t.candidates alg with
        | nil =>
          rw [ht] at hcandidates
          rw [hcandidates.eq_nil]
        | cons a rest =>
          rw [ht] at hcandidates
          cases rest with
          | nil => rw [hcandidates.eq_singleton]
          | cons b rest =>
            have hlength := hcandidates.length_eq
            cases hc : s.candidates alg with
            | nil => simp [hc] at hlength
            | cons c tail =>
              cases tail with
              | nil => simp [hc] at hlength
              | cons d rest' =>
                rw [hc] at hlength
                simp only [hlength]
  rw [select, select, hpick]

end Order

/-- **Keys are picked exactly, and in no order.**  A token with an id gets the key at its place, if
that key is fit; a token without one gets the default key, if it is fit, or else the only key that
is fit; any other gets the error that there is no matching key.  A list in which no two keys
compete for a place gives the same answer in every order, whether it is a key or an error. -/
theorem select_exact :
    (∀ (ks : List Key) (alg : Algorithm),
      (∀ id k, (ofList ks).select alg (some id) = .ok k ↔
        k ∈ (ofList ks).keys ∧ k.keyType = alg.keyType ∧ k.id = id ∧ k.supports alg = true) ∧
      (∀ k, (ofList ks).select alg none = .ok k ↔
        (ofList ks).Default alg k ∨
          (∀ d, ¬ (ofList ks).Default alg d) ∧ (ofList ks).Only alg k) ∧
      ∀ id, (∀ k, (ofList ks).select alg id ≠ .ok k) →
        ∃ message, (ofList ks).select alg id = .error (.noMatchingKey message)) ∧
    ∀ ks ls : List Key, (ks.map Key.slot).Nodup → ks.Perm ls → ∀ alg id,
      (ofList ks).select alg id = (ofList ls).select alg id := by
  constructor
  · intro ks alg
    have h := nodup_ofList ks
    exact ⟨fun id k => select_id_eq_ok_iff h, fun k => select_none_eq_ok_iff h,
      fun id => error_of_select_ne_ok⟩
  · intro ks ls hks hperm alg id
    have hls : (ls.map Key.slot).Nodup := (hperm.map Key.slot).nodup_iff.mp hks
    have hkeys : (ofList ks).keys.Perm (ofList ls).keys := by
      rwa [keys_ofList hks, keys_ofList hls]
    exact select_perm (nodup_ofList ks) hkeys alg id

/-- A default key, a key on another curve, and two orders.  The default key is picked for a token
without an id, whichever key is listed first, and the other one by its id; for a token without an id
and an algorithm of the other curve it is the only one that is fit.  Two keys on one curve, without
a default key, are too many for a token without an id. -/
theorem select_exact_two_orders :
    let a := Key.ec none (some "a") "P-256" "AQ" "Ag"
    let b := Key.ec none (some "b") "P-256" "Aw" "BA"
    let c := Key.ec none (some "c") "P-384" "AQ" "Ag"
    let d := Key.ec none none "P-256" "BQ" "Bg"
    (([d, a, c].map Key.slot).Nodup ∧ [d, a, c].Perm [c, a, d] ∧
      (∀ alg id, (ofList [d, a, c]).select alg id = (ofList [c, a, d]).select alg id) ∧
      (ofList [d, a, c]).select .es256 none = .ok d ∧
      (ofList [d, a, c]).select .es256 (some "a") = .ok a ∧
      (ofList [d, a, c]).select .es384 none = .ok c) ∧
    ([a, b].map Key.slot).Nodup ∧ [a, b].Perm [b, a] ∧
      (ofList [a, b]).select .es256 none = (ofList [b, a]).select .es256 none ∧
      (∀ k, (ofList [a, b]).select .es256 none ≠ .ok k) ∧
      ∃ message, (ofList [a, b]).select .es256 none = .error (.noMatchingKey message) := by
  intro a b c d
  have hnodup : ([a, b].map Key.slot).Nodup := by decide
  have hperm : [a, b].Perm [b, a] := List.Perm.swap b a []
  have hnone : ∀ k, (ofList [a, b]).select .es256 none ≠ .ok k := fun k hk => by
    have hfails : ((ofList [a, b]).select .es256 none).toOption = none := by decide
    rw [hk] at hfails
    exact nomatch hfails
  have hnodup' : ([d, a, c].map Key.slot).Nodup := by decide
  have hperm' : [d, a, c].Perm [c, a, d] := (List.reverse_perm [d, a, c]).symm
  obtain ⟨hid, hdefault, -⟩ := select_exact.1 [d, a, c] .es256
  have hpicked : (ofList [d, a, c]).select .es256 none = .ok d :=
    (hdefault d).mpr (.inl ⟨by decide, rfl, rfl, by decide⟩)
  have hnamed : (ofList [d, a, c]).select .es256 (some "a") = .ok a :=
    (hid "a" a).mpr ⟨by decide, rfl, rfl, by decide⟩
  refine ⟨⟨hnodup', hperm', select_exact.2 _ _ hnodup' hperm', hpicked, hnamed, by decide⟩,
    hnodup, hperm, select_exact.2 _ _ hnodup hperm .es256 none, hnone, ?_⟩
  exact (select_exact.1 [a, b] .es256).2.2 none hnone

end KeySet

/-! ## 6. Published ids -/

namespace Key

/-- The id under which a key is kept is never empty. -/
theorem effectiveId_ne_empty (id : Option String) : effectiveId id ≠ "" := by
  cases id with
  | none => decide
  | some i =>
    rw [effectiveId]
    split
    · decide
    · next h => exact fun he => h (by rw [he]; rfl)

/-- Any other id than the empty one is kept, and the default stands for none. -/
theorem effectiveId_eq_getD {id : Option String} (h : id ≠ some "") :
    effectiveId id = id.getD defaultId := by
  cases id with
  | none => rfl
  | some i =>
    have hi : ¬ i.isEmpty = true := fun he => h (by rw [String.isEmpty_iff.mp he])
    rw [effectiveId, if_neg hi, Option.getD_some]

end Key

/-- A key as it is published: by its components or as a text, with an id or without one. -/
inductive Publication where
  | rsa (algorithm : Option Algorithm) (id : Option String) (modulus exponent : String)
  | ec (algorithm : Option Algorithm) (id : Option String) (curve x y : String)
  | text (keyType : KeyType) (algorithm : Option Algorithm) (id : Option String)
    (content : String)
  deriving DecidableEq, Repr

namespace Publication

/-- The id that it is published with. -/
def id : Publication → Option String
  | rsa _ id _ _ => id
  | ec _ id _ _ _ => id
  | text _ _ id _ => id

/-- The key that is made of it. -/
def key : Publication → Key
  | rsa algorithm id modulus exponent => .rsa algorithm id modulus exponent
  | ec algorithm id curve x y => .ec algorithm id curve x y
  | text keyType algorithm id content => .text keyType algorithm id content

theorem id_key (p : Publication) : p.key.id = Key.effectiveId p.id := by
  cases p <;> rfl

/-- The set of what was published, in the order in which it was. -/
def published (ps : List Publication) : KeySet := KeySet.ofList (ps.map key)

variable {ps : List Publication} {p : Publication}

theorem isSome_firstAt (hp : p ∈ ps) : (KeySet.firstAt p.key.slot (ps.map key)).isSome := by
  rw [Option.isSome_iff_ne_none, Ne, KeySet.firstAt_eq_none_iff, not_not]
  exact List.mem_map_of_mem (List.mem_map_of_mem hp)

/-- **A key is found under its id**, unless that is empty. -/
theorem find?_published (hid : p.id ≠ some "") :
    (published ps).find? p.key.keyType p.id = KeySet.firstAt p.key.slot (ps.map key) := by
  rw [KeySet.find?_eq_firstAt, ← Key.effectiveId_eq_getD hid, ← id_key, published,
    KeySet.firstAt_ofList]
  rfl

/-- Nothing is kept under the empty id. -/
theorem find?_empty (ps : List Publication) (keyType : KeyType) :
    (published ps).find? keyType (some "") = none := by
  rw [KeySet.find?_eq_firstAt, published, KeySet.firstAt_ofList, KeySet.firstAt_eq_none_iff]
  simp only [List.map_map, List.mem_map, Function.comp_apply, Key.slot, Prod.mk.injEq, not_exists,
    not_and, Option.getD_some, id_key]
  exact fun p _ _ => Key.effectiveId_ne_empty p.id

theorem select_empty (ps : List Publication) (alg : Algorithm) :
    (published ps).select alg (some "") =
      .error (.noMatchingKey ((KeySet.NoKey.unknown "").message alg)) := by
  simp only [KeySet.select, KeySet.pick, KeySet.supporting?, find?_empty, Option.filter_none]
  rfl

/-- A token with the id of a key that is first at its place and fit gets it, unless the id is
empty. -/
theorem select_published {alg : Algorithm} {id : String} (hid : p.id = some id) (hne : id ≠ "")
    (hfirst : KeySet.firstAt p.key.slot (ps.map key) = some p.key)
    (hfit : p.key.supports alg = true) : (published ps).select alg (some id) = .ok p.key := by
  have hfound : (published ps).find? alg.keyType (some id) = some p.key := by
    rw [← Key.keyType_of_supports hfit, ← hid,
      find?_published (by rw [hid]; simpa using hne), hfirst]
  rw [KeySet.select_eq_ok_iff, KeySet.pick, KeySet.supporting?, hfound, Option.filter_some,
    if_pos hfit]

/-- **A key is found under the id that it was published with**: looking for it finds the first key
of its type that is kept under the same id, and a token with that id gets the key if it is the
first and is fit.  The empty id is the exception.  It counts as none when a key is made, and not
when one is looked for: the key is found where no id is named, and nothing under the empty one. -/
theorem found_as_published (ps : List Publication) (p : Publication) (hp : p ∈ ps) :
    let first := KeySet.firstAt p.key.slot (ps.map key)
    first.isSome ∧
      (p.id ≠ some "" → (published ps).find? p.key.keyType p.id = first) ∧
      (p.id = some "" → (published ps).find? p.key.keyType p.id = none ∧
        (published ps).find? p.key.keyType none = first) ∧
      ∀ id alg, p.id = some id → first = some p.key → p.key.supports alg = true →
        (id ≠ "" → (published ps).select alg (some id) = .ok p.key) ∧
        (id = "" → ∃ message,
          (published ps).select alg (some id) = .error (.noMatchingKey message)) := by
  refine ⟨isSome_firstAt hp, find?_published, fun hempty => ⟨?_, ?_⟩,
    fun id alg hid hfirst hfit => ⟨fun hne => select_published hid hne hfirst hfit, ?_⟩⟩
  · rw [hempty, find?_empty]
  · -- the empty id and no id are kept under the same one
    have hslot : p.key.slot = (p.key.keyType, Key.defaultId) := by
      rw [Key.slot, id_key, hempty]
      rfl
    rw [KeySet.find?_eq_firstAt, published, KeySet.firstAt_ofList, hslot]
    rfl
  · rintro rfl
    exact ⟨_, select_empty ps alg⟩

/-- Two keys compete for one id, and the first of them is found and picked under it; a third one
has the empty id, and nothing is found under that. -/
theorem found_as_published_twice :
    let p := rsa (some .rs256) (some "a") "AQAB" "Aw"
    let q := text .rsa none (some "a") "AQAB"
    let r := ec none (some "") "P-256" "AQ" "Ag"
    p ∈ [q, p, r] ∧ q ∈ [q, p, r] ∧ r ∈ [q, p, r] ∧ p.id ≠ some "" ∧ r.id = some "" ∧
      (published [q, p, r]).find? .rsa p.id = some q.key ∧
      (published [q, p, r]).select .rs256 (some "a") = .ok q.key ∧
      (published [q, p, r]).find? .ec r.id = none ∧
      (published [q, p, r]).find? .ec none = some r.key := by
  intro p q r
  have hp := found_as_published [q, p, r] p (by decide)
  have hq := found_as_published [q, p, r] q (by decide)
  have hr := found_as_published [q, p, r] r (by decide)
  exact ⟨by decide, by decide, by decide, by decide, rfl,
    (hp.2.1 (by decide)).trans (by decide),
    (hq.2.2.2 "a" .rs256 rfl (by decide) (by decide)).1 (by decide),
    (hr.2.2.1 rfl).1, (hr.2.2.1 rfl).2.trans (by decide)⟩

/-- **A key that is published with the empty id is not found under it**, although it is the first
and the only one. -/
theorem lost_with_empty_id :
    let p := rsa (some .rs256) (some "") "AQAB" "AQAB"
    KeySet.firstAt p.key.slot ([p].map key) = some p.key ∧ p.key.supports .rs256 = true ∧
      (published [p]).find? p.key.keyType p.id = none ∧
      ∀ k, (published [p]).select .rs256 p.id ≠ .ok k := by
  intro p
  refine ⟨by decide, by decide, by decide, fun k hk => ?_⟩
  have hnone : ((published [p]).select .rs256 p.id).toOption = none := by decide
  rw [hk] at hnone
  exact nomatch hnone

end Publication
end TokenTrust

/-
# How much a cache holds

What is stored makes room for itself, so a cache holds no more entries than there is room for.
There is one way to leave it with more, and that is to reduce the room below what it holds: the
limit is set, and nothing makes way until something is stored or everything is forgotten.  Until
then the cache holds what it held at that moment, and no other source.  What makes way is never
what has just been stored (`KeyCache.find?_store_of_others`), unless something of another source was
stored at the same moment.

An operation either leaves a cache that fits, or it leaves the sources and the room alone, or it
does nothing but set the room (`Filling`).  The theorem follows by induction on the run.
-/
import TokenTrust.Proofs.Operation

namespace TokenTrust

open TokenTrust.Action TokenTrust.Retrieval

/-! ## 1. Who makes way -/

namespace KeyCache

namespace Entry

variable {order : Order} {e e' e'' : Entry}

theorem yields_iff : e.yields order e' = true ↔
    e.storedAt < e'.storedAt ∨ e.storedAt = e'.storedAt ∧ e.place order ≤ e'.place order := by
  simp [yields]

theorem yields_refl (order : Order) (e : Entry) : e.yields order e = true :=
  yields_iff.mpr (Or.inr ⟨rfl, Nat.le_refl _⟩)

/-- What was stored first makes way, whatever the order. -/
theorem yields_of_lt (order : Order) (h : e.storedAt < e'.storedAt) :
    e.yields order e' = true :=
  yields_iff.mpr (Or.inl h)

theorem yields_total (order : Order) (e e' : Entry) :
    e.yields order e' = true ∨ e'.yields order e = true := by
  rcases Nat.lt_trichotomy e.storedAt e'.storedAt with h | h | h
  · exact Or.inl (yields_of_lt order h)
  · rcases Nat.le_total (e.place order) (e'.place order) with hp | hp
    · exact Or.inl (yields_iff.mpr (Or.inr ⟨h, hp⟩))
    · exact Or.inr (yields_iff.mpr (Or.inr ⟨h.symm, hp⟩))
  · exact Or.inr (yields_of_lt order h)

theorem yields_trans (h : e.yields order e' = true) (h' : e'.yields order e'' = true) :
    e.yields order e'' = true := by
  rw [yields_iff] at *
  rcases h with h | ⟨h, hp⟩
  · exact Or.inl (Nat.lt_of_lt_of_le h (h'.elim Nat.le_of_lt fun h' => Nat.le_of_eq h'.1))
  · rcases h' with h' | ⟨h', hp'⟩
    · exact Or.inl (h ▸ h')
    · exact Or.inr ⟨h.trans h', Nat.le_trans hp hp'⟩

theorem storedAt_le_of_yields (h : e.yields order e' = true) : e.storedAt ≤ e'.storedAt :=
  (yields_iff.mp h).elim Nat.le_of_lt fun h => Nat.le_of_eq h.1

end Entry

/-! ## 2. Making room -/

namespace Entries

variable (order : Order)

/-- Some entry is the first to make way, if there is any. -/
theorem exists_yields {es : Entries} (hes : es ≠ []) :
    ∃ p ∈ es, ∀ q ∈ es, p.2.yields order q.2 = true := by
  induction es with
  | nil => exact absurd rfl hes
  | cons p es ih =>
    by_cases hrest : es = []
    · subst hrest
      refine ⟨p, List.mem_cons_self, fun q hq => ?_⟩
      rw [List.mem_singleton.mp hq]
      exact p.2.yields_refl order
    obtain ⟨first, hfirst, hleast⟩ := ih hrest
    rcases p.2.yields_total order first.2 with hp | hp
    · refine ⟨p, List.mem_cons_self, List.forall_mem_cons.mpr ⟨p.2.yields_refl order, ?_⟩⟩
      exact fun q hq => Entry.yields_trans hp (hleast q hq)
    · exact ⟨first, List.mem_cons_of_mem p hfirst, List.forall_mem_cons.mpr ⟨hp, hleast⟩⟩

/-- **One entry makes way**, the first that yields to all that are there. -/
theorem exists_dropOldest {es : Entries} (hes : es ≠ []) : ∃ before p rest,
    es = before ++ p :: rest ∧ es.dropOldest order = before ++ rest ∧
      (∀ q ∈ es, p.2.yields order q.2 = true) ∧
      ∀ q ∈ before, ¬ ∀ q' ∈ es, q.2.yields order q'.2 = true := by
  obtain ⟨first, hfirst, hleast⟩ := exists_yields order hes
  obtain ⟨p, before, rest, hbefore, hp, hsplit, herased⟩ :=
    List.exists_of_eraseP (p := fun p => es.all fun q => p.2.yields order q.2) hfirst
      (List.all_eq_true.mpr hleast)
  refine ⟨before, p, rest, hsplit, herased, List.all_eq_true.mp hp, fun q hq => ?_⟩
  rw [← List.all_eq_true]
  exact hbefore q hq

theorem length_dropOldest (es : Entries) : (es.dropOldest order).length = es.length - 1 := by
  by_cases hes : es = []
  · subst hes
    rfl
  obtain ⟨before, p, rest, hsplit, herased, -⟩ := exists_dropOldest order hes
  rw [herased, hsplit, List.length_append, List.length_append, List.length_cons]
  rfl

theorem length_dropOldestBy (n : Nat) (es : Entries) :
    (es.dropOldestBy order n).length = es.length - n := by
  induction n generalizing es with
  | zero => rfl
  | succ n ih =>
    rw [dropOldestBy, ih, length_dropOldest]
    omega

/-- Just as many entries make way as there are too many. -/
theorem length_fit (room : Nat) (es : Entries) :
    (es.fit order room).length = min es.length room := by
  rw [fit, length_dropOldestBy]
  omega

/-- **What was stored last stays** as long as anything else is there to make way. -/
theorem dropOldest_concat {es : Entries} {p : KeySource × Entry} (hes : es ≠ [])
    (h : ∀ q ∈ es, q.2.storedAt < p.2.storedAt) :
    dropOldest order (es ++ [p]) = es.dropOldest order ++ [p] := by
  obtain ⟨before, first, rest, hsplit, herased, hleast, hbefore⟩ := exists_dropOldest order hes
  refine List.eraseP_eq_iff.mpr (Or.inr ⟨first, before, rest ++ [p], fun q hq => ?_, ?_, ?_, ?_⟩)
  · rw [List.all_eq_true]
    exact fun hall => hbefore q hq fun q' hq' => hall q' (List.mem_append_left _ hq')
  · rw [List.all_eq_true]
    refine List.forall_mem_append.mpr ⟨hleast, fun q hq => ?_⟩
    rw [List.mem_singleton.mp hq]
    exact Entry.yields_of_lt order (h first (by rw [hsplit]; simp))
  · rw [hsplit, List.append_assoc, List.cons_append]
  · rw [herased, List.append_assoc]

/-- It goes last. -/
theorem dropOldestBy_concat {p : KeySource × Entry} (n : Nat) (es : Entries) (hn : n ≤ es.length)
    (h : ∀ q ∈ es, q.2.storedAt < p.2.storedAt) :
    dropOldestBy order n (es ++ [p]) = es.dropOldestBy order n ++ [p] := by
  induction n generalizing es with
  | zero => rfl
  | succ n ih =>
    have hes : es ≠ [] := List.ne_nil_of_length_pos (Nat.lt_of_lt_of_le (Nat.succ_pos n) hn)
    rw [dropOldestBy, dropOldest_concat order hes h, dropOldestBy]
    refine ih _ ?_ fun q hq => h q ((es.dropOldest_sublist order).subset hq)
    rw [length_dropOldest]
    omega

end Entries

/-! ## 3. Storing -/

/-- **A cache fits** if it holds no more entries than there is room for. -/
def Fits (c : KeyCache) : Prop := c.size ≤ c.maxEntries

/-- **What is stored makes room for itself.** -/
theorem fits_store (c : KeyCache) (source : KeySource) (keys : KeySet) (now : Instant) :
    (c.store source keys now).2.Fits := by
  change ((c.entries.insert source ⟨⟨c.nextSerial, keys⟩, now, now + c.ttl⟩).fit c.order
    c.maxEntries).length ≤ c.maxEntries
  rw [Entries.length_fit]
  exact Nat.min_le_right _ _

/-- **What is stored is found**, if there is any room and everything of other sources was stored
before.  What was there of the source itself does not matter: it is replaced. -/
theorem find?_store_of_others {c : KeyCache} {source : KeySource} {keys : KeySet} {now : Instant}
    (hroom : 1 ≤ c.maxEntries) (h : ∀ p ∈ c.entries, p.1 ≠ source → p.2.storedAt < now) :
    (c.store source keys now).2.find? source =
      some ⟨⟨c.nextSerial, keys⟩, now, now + c.ttl⟩ := by
  let entry : Entry := ⟨⟨c.nextSerial, keys⟩, now, now + c.ttl⟩
  have hlast : (c.store source keys now).2.entries = Entries.dropOldestBy c.order
      ((c.entries.insert source entry).length - c.maxEntries) (c.entries.filter (·.1 ≠ source)) ++
        [(source, entry)] := by
    refine Entries.dropOldestBy_concat c.order _ _ ?_ fun q hq => ?_
    · rw [Entries.insert, List.length_append, List.length_singleton]
      omega
    · obtain ⟨hmem, hne⟩ := List.mem_filter.mp hq
      exact h q hmem (by simpa using hne)
  refine find?_eq_some_iff.mpr ?_
  rw [hlast]
  exact List.mem_append_right _ List.mem_cons_self

section

variable {c : KeyCache} {source other : KeySource} {keys : KeySet} {now : Instant}

/-- **There is room for a source**: if its keys are stored, nothing has to make way. -/
def HasRoom (c : KeyCache) (source : KeySource) : Prop :=
  (c.entries.filter (·.1 ≠ source)).length < c.maxEntries

instance : Decidable (c.HasRoom source) := Nat.decLt _ _

theorem entries_store (h : c.HasRoom source) (keys : KeySet) (now : Instant) :
    (c.store source keys now).2.entries =
      c.entries.insert source ⟨⟨c.nextSerial, keys⟩, now, now + c.ttl⟩ := by
  have hfits : (c.entries.insert source ⟨⟨c.nextSerial, keys⟩, now, now + c.ttl⟩).length -
      c.maxEntries = 0 := by
    rw [Entries.insert, List.length_append, List.length_singleton]
    rw [HasRoom] at h
    omega
  change (c.entries.insert source _).fit c.order c.maxEntries = _
  rw [Entries.fit, hfits, Entries.dropOldestBy]

/-- Where there is room, what is stored is found. -/
theorem find?_store (h : c.HasRoom source) (keys : KeySet) (now : Instant) :
    (c.store source keys now).2.find? source =
      some ⟨⟨c.nextSerial, keys⟩, now, now + c.ttl⟩ := by
  rw [find?, entries_store h, Entries.insert, Entries.find?, find?_fst_put_self, Option.map_some]

/-- **There is room for a source at some moment**: some, and whatever has to make way if its keys
are stored then was stored before. -/
def Takes (c : KeyCache) (source : KeySource) (now : Instant) : Prop :=
  c.HasRoom source ∨
    1 ≤ c.maxEntries ∧ ∀ p ∈ c.entries, p.1 ≠ source → p.2.storedAt < now

theorem Takes.of_le {now' : Instant} (h : c.Takes source now) (hle : now ≤ now') :
    c.Takes source now' :=
  h.imp_right fun ⟨hroom, hearlier⟩ =>
    ⟨hroom, fun p hp hne => Nat.lt_of_lt_of_le (hearlier p hp hne) hle⟩

theorem find?_store_of_takes (h : c.Takes source now) (keys : KeySet) :
    (c.store source keys now).2.find? source =
      some ⟨⟨c.nextSerial, keys⟩, now, now + c.ttl⟩ := by
  rcases h with hroom | ⟨hroom, hearlier⟩
  · exact find?_store hroom keys now
  · exact find?_store_of_others hroom hearlier

/-- **Where there is room, the entries of other sources stay as they are.** -/
theorem find?_store_of_ne (h : c.HasRoom source) (hne : other ≠ source) (keys : KeySet)
    (now : Instant) : (c.store source keys now).2.find? other = c.find? other := by
  rw [find?, entries_store h, Entries.insert, Entries.find?, find?_fst_put_of_ne _ _ hne, find?,
    Entries.find?]

/-- Room or not, the entry of another source stays as it is or makes way. -/
theorem find?_store_eq_or_none (hne : other ≠ source) (keys : KeySet) (now : Instant) :
    (c.store source keys now).2.find? other = c.find? other ∨
      (c.store source keys now).2.find? other = none := by
  cases hfound : (c.store source keys now).2.find? other with
  | none => exact Or.inr rfl
  | some e =>
    rcases mem_store (mem_of_find? hfound) with ⟨hold, -⟩ | hnew
    · exact Or.inl (find?_eq_some_iff.mpr hold).symm
    · exact absurd (Prod.mk.inj hnew).1 hne

/-- What is stored makes another cache. -/
theorem store_ne (c : KeyCache) (source : KeySource) (keys : KeySet) (now : Instant) :
    (c.store source keys now).2 ≠ c := by
  intro h
  have hserial : c.nextSerial + 1 = c.nextSerial := congrArg nextSerial h
  omega

theorem mem_sources_store (h : c.HasRoom source) :
    other ∈ (c.store source keys now).2.entries.sources ↔
      other ∈ c.entries.sources ∨ other = source := by
  rw [entries_store h]
  by_cases hne : other = source
  · simp [Entries.sources, Entries.insert, hne]
  · simp [Entries.sources, Entries.insert, hne]

end

theorem size_eq_length_sources (c : KeyCache) : c.size = c.entries.sources.length := by
  simp [size, Entries.sources]

/-- The same sources take the same room. -/
theorem Fits.congr {c c' : KeyCache} (h : c.Fits) (hm : c'.maxEntries = c.maxEntries)
    (hs : c'.entries.sources = c.entries.sources) : c'.Fits := by
  rw [Fits, size_eq_length_sources] at h ⊢
  rw [hm, hs]
  exact h

end KeyCache

/-! ## 4. What an operation does to the room -/

variable {out : Surroundings} {s s' s₀ : State}

/-- **How an operation fills a cache.** -/
inductive Filling (s : State) (op : Operation) (s' : State) : Prop
  /-- The cache fits afterwards, whatever was in it. -/
  | fits (h : s'.keys.Fits)
  /-- The same sources are there, and the same room. -/
  | same (hm : s'.keys.maxEntries = s.keys.maxEntries)
    (hs : s'.keys.entries.sources = s.keys.entries.sources)
  /-- The room was set, and nothing else. -/
  | limited {n : Nat} (hop : op = .configure (.maxEntries n)) (hm : s'.keys.maxEntries = n)
    (hs : s'.keys.entries.sources = s.keys.entries.sources)

/-- Retrievals leave the room alone, and the cache too unless they store something. -/
theorem Retrieval.kept_filling (out : Surroundings) :
    Kept out (fun _ => True) fun s s' =>
      s'.keys.maxEntries = s.keys.maxEntries ∧ (s'.keys.Fits ∨ s'.keys = s.keys) where
  trans := by
    rintro s s₁ s₂ ⟨hm, h⟩ ⟨hm', h'⟩
    refine ⟨hm'.trans hm, ?_⟩
    rcases h' with hfits | heq
    · exact Or.inl hfits
    · rw [heq]
      exact h
  advance _ _ := ⟨rfl, Or.inr rfl⟩
  logging _ _ := ⟨rfl, Or.inr rfl⟩
  fetching := by
    intro source s s' r _ h
    cases h with
    | crashed => exact ⟨rfl, Or.inr rfl⟩
    | failed => exact ⟨rfl, Or.inr rfl⟩
    | undated => exact ⟨rfl, Or.inr rfl⟩
    | stored => exact ⟨rfl, Or.inl (KeyCache.fits_store _ _ _ _)⟩
  discovering := by
    intro url s s' r _ h
    cases h <;> exact ⟨rfl, Or.inr rfl⟩

/-- An operation makes the cache fit, or leaves it as full as it was, or sets the room. -/
theorem filling_next (out : Surroundings) (s : State) (op : Operation) :
    Filling s op (s.next out op) := by
  have retrieved (h : op.retrieves = true) : Filling s op (s.next out op) := by
    obtain ⟨hm, hfits | heq⟩ := (kept_filling out).next s h
    · exact .fits hfits
    · exact .same hm (by rw [heq])
  cases op with
  | configure x =>
    cases x with
    | ttl d => exact .same rfl (KeyCache.Entries.sources_withTtl _ _)
    | minRefresh => exact .same rfl rfl
    | maxEntries n => exact .limited rfl rfl rfl
    | preloaded source keys => exact .fits (KeyCache.fits_store _ _ _ _)
  | configureDiscovery => exact .same rfl rfl
  | clear => exact .fits (Nat.zero_le _)
  | _ => exact retrieved rfl

/-! ## 5. Runs -/

/-- **A cache holds no more than there is room for, unless the room was reduced.**  After a run that
starts without entries, the cache fits, or the run has reduced the room below what was held, to
what it is still, and the cache holds the sources that it held then. -/
theorem size_le_or_lowered (out : Surroundings) (h₀ : s₀.keys.entries = [])
    (ops : List Operation) :
    (s₀.after out ops).keys.size ≤ (s₀.after out ops).keys.maxEntries ∨
      ∃ before n rest, ops = before ++ .configure (.maxEntries n) :: rest ∧
        n < (s₀.after out before).keys.size ∧
        (s₀.after out ops).keys.maxEntries = n ∧
        (s₀.after out ops).keys.entries.sources =
          (s₀.after out before).keys.entries.sources := by
  induction ops using List.reverseRecOn with
  | nil =>
    have hempty : s₀.keys.size = 0 := by rw [KeyCache.size, h₀]; rfl
    exact Or.inl (hempty ▸ Nat.zero_le _)
  | append_singleton ops op ih =>
    rw [State.after_concat]
    cases filling_next out (s₀.after out ops) op with
    | fits h => exact Or.inl h
    | same hm hs =>
      rcases ih with hfits | ⟨before, n, rest, rfl, hlow, hn, hsources⟩
      · exact Or.inl (KeyCache.Fits.congr hfits hm hs)
      · exact Or.inr ⟨before, n, rest ++ [op], by simp, hlow, hm.trans hn, hs.trans hsources⟩
    | @limited n hop hm hs =>
      have hsize : ((s₀.after out ops).next out op).keys.size = (s₀.after out ops).keys.size := by
        rw [KeyCache.size_eq_length_sources, KeyCache.size_eq_length_sources, hs]
      by_cases hle : (s₀.after out ops).keys.size ≤ n
      · exact Or.inl (by rw [hsize, hm]; exact hle)
      · exact Or.inr ⟨ops, n, [], by rw [hop], Nat.lt_of_not_le hle, hm, hs⟩

/-- The keys of two tenants are there when the room is reduced to one entry.  Then the keys of the
second tenant are got. -/
theorem size_le_or_lowered_two_tenants :
    let place : Url := ⟨"https", some ⟨"", none, some (.domain "my.auth.com"), none⟩,
      .segments ["token_keys"], none, none⟩
    let out : Surroundings := ⟨fun n => n, 0, fun _ _ => .crash⟩
    let held : List Operation := [.configure (.preloaded ⟨place, some "a"⟩ .empty),
      .configure (.preloaded ⟨place, some "b"⟩ .empty)]
    let ops := held ++ [.configure (.maxEntries 1), .get ⟨place, some "b"⟩]
    (State.after out {} ops).keys.size ≤ (State.after out {} ops).keys.maxEntries ∨
      ∃ before n rest, ops = before ++ .configure (.maxEntries n) :: rest ∧
        n < (State.after out {} before).keys.size ∧
        (State.after out {} ops).keys.maxEntries = n ∧
        (State.after out {} ops).keys.entries.sources =
          (State.after out {} before).keys.entries.sources := by
  intro place out held ops
  exact size_le_or_lowered out rfl ops

/-- **Reducing the room makes no room.**  The entries that do not fit any more are still there after
the room was set, and after keys were got that are stored. -/
theorem held_beyond_limit :
    let place : Url := ⟨"https", some ⟨"", none, some (.domain "my.auth.com"), none⟩,
      .segments ["token_keys"], none, none⟩
    let out : Surroundings := ⟨fun n => n, 0, fun _ _ => .crash⟩
    let ops : List Operation := [.configure (.preloaded ⟨place, some "a"⟩ .empty),
      .configure (.preloaded ⟨place, some "b"⟩ .empty), .configure (.maxEntries 1)]
    let c := (State.after out {} ops).keys
    let c' := (State.after out {} (ops ++ [.get ⟨place, some "b"⟩])).keys
    c.maxEntries < c.size ∧ c'.maxEntries < c'.size := by
  decide +kernel

end TokenTrust

/-
# Looking up and storing

What the caches answer is an entry of theirs that may still be used, and what they hold after
something was stored is that and what they held before.  Setting a cache up changes no set and no
moment at which one was stored; how long an entry may be used is at all times counted from then
(`KeyCache.Timed`).
-/
import TokenTrust.Cache.Discovery
import TokenTrust.Cache.Keys

namespace TokenTrust

/-- What is found under a key in a list of pairs is listed under that key. -/
theorem mem_of_find?_fst {α β : Type} [DecidableEq α] {l : List (α × β)} {a : α} {b : β}
    (h : (l.find? (·.1 == a)).map (·.2) = some b) : (a, b) ∈ l := by
  obtain ⟨p, hp, rfl⟩ := Option.map_eq_some_iff.mp h
  have ha : p.1 = a := by simpa using List.find?_some hp
  have hm : p ∈ l := List.mem_of_find?_eq_some hp
  rw [← ha]
  exact hm

/-- What is listed under a key, and nothing else is, is found under it. -/
theorem find?_fst_of_mem {α β : Type} [DecidableEq α] {l : List (α × β)} {a : α} {b : β}
    (hl : (l.map (·.1)).Nodup) (h : (a, b) ∈ l) : (l.find? (·.1 == a)).map (·.2) = some b := by
  induction l with
  | nil => exact nomatch h
  | cons p l ih =>
    obtain ⟨hp, hl⟩ := List.nodup_cons.mp hl
    rcases List.mem_cons.mp h with rfl | h
    · simp
    · have hne : p.1 ≠ a := fun e => hp (List.mem_map.mpr ⟨(a, b), h, e.symm⟩)
      rw [List.find?_cons_of_neg (by simpa using hne)]
      exact ih hl h

/-- What was put under a key is found there. -/
theorem find?_fst_put_self {α β : Type} [DecidableEq α] (l : List (α × β)) (a : α) (b : β) :
    (l.filter (·.1 ≠ a) ++ [(a, b)]).find? (·.1 == a) = some (a, b) := by
  have hgone : (l.filter (·.1 ≠ a)).find? (·.1 == a) = none := by
    rw [List.find?_eq_none]
    intro p hp
    simpa using (List.mem_filter.mp hp).2
  rw [List.find?_append, hgone, Option.none_or]
  simp

/-- Under another key, putting changes nothing. -/
theorem find?_fst_put_of_ne {α β : Type} [DecidableEq α] (l : List (α × β)) {a a' : α} (b : β)
    (h : a' ≠ a) :
    (l.filter (·.1 ≠ a) ++ [(a, b)]).find? (·.1 == a') = l.find? (·.1 == a') := by
  have hlast : [(a, b)].find? (·.1 == a') = none := by simp [Ne.symm h]
  rw [List.find?_append, hlast, Option.or_none, List.find?_filter]
  congr 1
  funext p
  by_cases hp : p.1 = a'
  · simp [hp, h]
  · simp [hp]

/-! ## 1. Key sets -/

namespace KeyCache

/-! What makes way depends on nothing but who yields to whom. -/

namespace Entries

variable {order : Order} {f : KeySource × Entry → KeySource × Entry}
variable (hf : ∀ p q, (f p).2.yields order (f q).2 = p.2.yields order q.2)

include hf

theorem dropOldest_map (es : Entries) :
    dropOldest order (es.map f) = (es.dropOldest order).map f := by
  simp [dropOldest, List.eraseP_map, Function.comp_def, hf]

theorem dropOldestBy_map (n : Nat) (es : Entries) :
    dropOldestBy order n (es.map f) = (es.dropOldestBy order n).map f := by
  induction n generalizing es with
  | zero => rfl
  | succ n ih => rw [dropOldestBy, dropOldestBy, dropOldest_map hf, ih]

theorem fit_map (room : Nat) (es : Entries) :
    fit order room (es.map f) = (es.fit order room).map f := by
  rw [fit, fit, List.length_map, dropOldestBy_map hf]

end Entries

variable {c : KeyCache} {source : KeySource}

/-- An entry that is found is one of the cache. -/
theorem mem_of_find? {e : Entry} (h : c.find? source = some e) : (source, e) ∈ c.entries :=
  mem_of_find?_fst h

/-- The entry of a source is found: there is no other. -/
theorem find?_eq_some_iff {e : Entry} : c.find? source = some e ↔ (source, e) ∈ c.entries :=
  ⟨mem_of_find?, find?_fst_of_mem c.distinct⟩

theorem live?_eq_some_iff {now : Instant} {held : HeldKeys} :
    c.live? source now = some held ↔
      ∃ e, c.find? source = some e ∧ now < e.expiresAt ∧ e.held = held := by
  simp only [live?, Option.map_eq_some_iff, Option.filter_eq_some_iff, Entry.isLive,
    decide_eq_true_eq, and_assoc]

theorem recent?_eq_some_iff {requestedAt now : Instant} {held : HeldKeys} :
    c.recent? source requestedAt now = some held ↔
      ∃ e, c.find? source = some e ∧ requestedAt < e.storedAt + c.minRefresh ∧
        now < e.expiresAt ∧ e.held = held := by
  simp only [recent?, Option.map_eq_some_iff, Option.filter_eq_some_iff, Entry.isLive,
    Entry.isRecent, Bool.and_eq_true, decide_eq_true_eq, and_assoc]

/-- What is recent at a source is told by the entry of the source. -/
theorem intervalTold_of_find? {e : Entry} (h : c.find? source = some e) :
    c.intervalTold source = e.storedAt.reaches c.minRefresh := by
  rw [intervalTold, h, Option.all_some]

/-- **Recent sets are live.**  The least interval only adds a condition. -/
theorem live?_of_recent? {requestedAt now : Instant} {held : HeldKeys}
    (h : c.recent? source requestedAt now = some held) : c.live? source now = some held := by
  obtain ⟨e, hf, -, hl, he⟩ := recent?_eq_some_iff.mp h
  exact live?_eq_some_iff.mpr ⟨e, hf, hl, he⟩

/-- At one source there is one set, whenever one looks. -/
theorem live?_unique {now now' : Instant} {held held' : HeldKeys}
    (h : c.live? source now = some held) (h' : c.live? source now' = some held') :
    held = held' := by
  obtain ⟨e, he, -, rfl⟩ := live?_eq_some_iff.mp h
  obtain ⟨e', he', -, rfl⟩ := live?_eq_some_iff.mp h'
  rw [he] at he'
  rw [Option.some.inj he']

/-- Who looks at two moments and finds a set has found it at one of them. -/
theorem exists_live? {now now' : Instant} {held : HeldKeys}
    (h : c.live? source now = some held ∨ c.live? source now' = some held) :
    ∃ seen, c.live? source seen = some held :=
  h.elim (fun h => ⟨now, h⟩) fun h => ⟨now', h⟩

/-- What may be used at some moment might have been used before. -/
theorem live?_of_le {now now' : Instant} {held : HeldKeys}
    (h : c.live? source now' = some held) (hle : now ≤ now') :
    c.live? source now = some held := by
  obtain ⟨e, he, hlive, hheld⟩ := live?_eq_some_iff.mp h
  exact live?_eq_some_iff.mpr ⟨e, he, Nat.lt_of_le_of_lt hle hlive, hheld⟩

/-- A set that is found is none of those that are stored later. -/
theorem serial_lt_of_live? {now : Instant} {held : HeldKeys}
    (h : c.live? source now = some held) : held.serial < c.nextSerial := by
  obtain ⟨e, he, -, rfl⟩ := live?_eq_some_iff.mp h
  exact c.numbered _ (mem_of_find? he)

/-- What is there after a set was stored is that set, or it was there before under another
source. -/
theorem mem_store {keys : KeySet} {now : Instant} {p : KeySource × Entry}
    (h : p ∈ (c.store source keys now).2.entries) :
    (p ∈ c.entries ∧ p.1 ≠ source) ∨
      p = (source, ⟨⟨c.nextSerial, keys⟩, now, now + c.ttl⟩) :=
  Entries.mem_insert.mp ((Entries.fit_sublist _ _ _).subset h)

/-- What is there after something was set up was there before, perhaps with another time to live,
or it is preloaded. -/
theorem mem_configure {now : Instant} {x : Setting} {e : Entry}
    (h : (source, e) ∈ (c.configure now x).entries) :
    (∃ e₀, (source, e₀) ∈ c.entries ∧ e₀.held = e.held ∧ e₀.storedAt = e.storedAt) ∨
      (x = .preloaded source e.held.keys ∧ now = e.storedAt) := by
  cases x with
  | ttl d =>
    obtain ⟨⟨source', e'⟩, hmem, heq⟩ := List.mem_map.mp h
    obtain ⟨rfl, rfl⟩ := Prod.mk.inj heq
    exact Or.inl ⟨e', hmem, rfl, rfl⟩
  | minRefresh => exact Or.inl ⟨e, h, rfl, rfl⟩
  | maxEntries => exact Or.inl ⟨e, h, rfl, rfl⟩
  | preloaded source' keys =>
    rcases mem_store h with ⟨hold, -⟩ | hnew
    · exact Or.inl ⟨e, hold, rfl, rfl⟩
    · obtain ⟨rfl, rfl⟩ := Prod.mk.inj hnew
      exact Or.inr ⟨rfl, rfl⟩

/-- **The time to live counts from when an entry was stored.** -/
def Timed (c : KeyCache) : Prop :=
  ∀ source e, (source, e) ∈ c.entries → e.expiresAt = e.storedAt + c.ttl

theorem Timed.of_entries_eq_nil (h : c.entries = []) : Timed c :=
  fun _ _ he => absurd (h ▸ he) List.not_mem_nil

theorem Timed.store (h : Timed c) (source : KeySource) (keys : KeySet) (now : Instant) :
    Timed (c.store source keys now).2 := by
  intro source' e he
  rcases mem_store he with ⟨hold, -⟩ | hnew
  · exact h source' e hold
  · obtain ⟨rfl, rfl⟩ := Prod.mk.inj hnew
    rfl

/-- **Setting a time to live sets it for all entries**, and setting anything else changes none. -/
theorem Timed.configure (h : Timed c) (now : Instant) (x : Setting) :
    Timed (c.configure now x) := by
  cases x with
  | ttl d =>
    intro source e he
    obtain ⟨⟨source', e'⟩, -, heq⟩ := List.mem_map.mp he
    obtain ⟨rfl, rfl⟩ := Prod.mk.inj heq
    rfl
  | minRefresh => exact h
  | maxEntries => exact h
  | preloaded source keys => exact h.store source keys now

end KeyCache

/-! ## 2. Discovery documents -/

namespace DiscoveryCache

variable {c : DiscoveryCache} {url : Url}

theorem mem_of_find? {e : Entry} (h : c.find? url = some e) : (url, e) ∈ c.entries :=
  mem_of_find?_fst h

theorem live?_eq_some_iff {now : Instant} {document : Discovery} :
    c.live? url now = some document ↔
      ∃ e, c.find? url = some e ∧ now < e.expiresAt ∧ e.document = document := by
  simp only [live?, Option.map_eq_some_iff, Option.filter_eq_some_iff, Entry.isLive,
    decide_eq_true_eq, and_assoc]

/-- What may be used at some moment might have been used before. -/
theorem live?_of_le {now now' : Instant} {document : Discovery}
    (h : c.live? url now' = some document) (hle : now ≤ now') :
    c.live? url now = some document := by
  obtain ⟨e, he, hlive, hdocument⟩ := live?_eq_some_iff.mp h
  exact live?_eq_some_iff.mpr ⟨e, he, Nat.lt_of_le_of_lt hle hlive, hdocument⟩

theorem find?_store_self (c : DiscoveryCache) (url : Url) (document : Discovery) (now : Instant) :
    (c.store url document now).find? url = some ⟨document, now + c.ttl⟩ := by
  rw [find?, store, find?_fst_put_self, Option.map_some]

theorem find?_store_of_ne {url' : Url} (document : Discovery) (now : Instant) (h : url' ≠ url) :
    (c.store url document now).find? url' = c.find? url' := by
  rw [find?, store, find?_fst_put_of_ne _ _ h, find?]

theorem mem_store {document : Discovery} {now : Instant} {p : Url × Entry}
    (h : p ∈ (c.store url document now).entries) :
    p ∈ c.entries ∨ p = (url, ⟨document, now + c.ttl⟩) := by
  simp only [store, List.mem_append, List.mem_filter, List.mem_singleton] at h
  rcases h with ⟨h, -⟩ | h
  · exact Or.inl h
  · exact Or.inr h

end DiscoveryCache
end TokenTrust

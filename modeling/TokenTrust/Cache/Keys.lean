/-
# The cache of key sets

Key sets that were fetched before, by their source, each for a limited time.  An entry says when it
was stored and when it expires, and `Entry.isLive` is the one condition under which a set may be
used again.

There is room for a limited number of entries; what was stored first makes way.  Where several
entries were stored at the same moment, it is left open which of them does: each cache has an order
of its own for them (`KeyCache.order`), and nothing is known of it.  A set gets a serial number when
it is stored, so that a set that was fetched again can be told from the one before, even if both
hold the same keys.

Moments are added up in three places: an entry expires one time to live after it was stored, it is
recent for one least interval after it was stored, and a new time to live is counted from when each
entry was stored.  Such a moment may be later than the last one that can be told
(`Instant.reaches`).  Then whoever asks for it crashes, before anything is changed.

A cache has one entry for a source at most, and the number of the next set is above those of the
sets it holds.  Both are part of the type (`KeyCache.distinct`, `KeyCache.numbered`).

Everything here is a function of the cache and of the clock.  Fetching is not: see
`Retrieval.Keys`.
-/
import TokenTrust.KeySet.Basic
import TokenTrust.KeySource
import TokenTrust.Text.Quoted
import TokenTrust.Time.Duration

namespace TokenTrust

/-! ## 1. Entries -/

/-- A key set that was stored once. -/
structure HeldKeys where
  serial : Nat
  keys : KeySet
  deriving DecidableEq, Repr

namespace KeyCache

structure Entry where
  held : HeldKeys
  storedAt : Instant
  expiresAt : Instant
  deriving DecidableEq, Repr

/-- Whether an entry may be used. -/
def Entry.isLive (now : Instant) (e : Entry) : Bool :=
  now < e.expiresAt

/-- Whether an entry is too young to be fetched again on a request made at some moment. -/
def Entry.isRecent (interval : Duration) (requestedAt : Instant) (e : Entry) : Bool :=
  requestedAt < e.storedAt + interval

/-- The entries of a cache, each source once, the one stored last at the end. -/
abbrev Entries := List (KeySource × Entry)

/-- The entry of a source. -/
def Entries.find? (es : Entries) (source : KeySource) : Option Entry :=
  (List.find? (·.1 == source) es).map (·.2)

/-- The entries with one more; it replaces one of the same source. -/
def Entries.insert (es : Entries) (source : KeySource) (e : Entry) : Entries :=
  es.filter (·.1 ≠ source) ++ [(source, e)]

/-! ## 2. Room -/

/-- In which order entries make way that were stored at the same moment: the place of each set, by
its serial number.  No set makes way twice, so whatever is chosen in a run is chosen by some order:
the one in which the sets do make way. -/
abbrev Order := List Nat

/-- The place of an entry in an order. -/
def Entry.place (order : Order) (e : Entry) : Nat :=
  order.getD e.held.serial 0

/-- Whether an entry makes way no later than another one. -/
def Entry.yields (order : Order) (e e' : Entry) : Bool :=
  e.storedAt < e'.storedAt || e.storedAt == e'.storedAt && e.place order ≤ e'.place order

/-- The entries without the one that was stored first. -/
def Entries.dropOldest (order : Order) (es : Entries) : Entries :=
  es.eraseP fun p => es.all fun q => p.2.yields order q.2

/-- The entries without the `n` that were stored first. -/
def Entries.dropOldestBy (order : Order) : Nat → Entries → Entries
  | 0, es => es
  | n + 1, es => dropOldestBy order n (es.dropOldest order)

/-- As many entries as there is room for, those that were stored last. -/
def Entries.fit (order : Order) (room : Nat) (es : Entries) : Entries :=
  es.dropOldestBy order (es.length - room)

namespace Entries

variable (order : Order)

/-- The sources of some entries. -/
def sources (es : Entries) : List KeySource := es.map (·.1)

theorem dropOldest_sublist (es : Entries) : (es.dropOldest order).Sublist es :=
  List.eraseP_sublist

theorem dropOldestBy_sublist : ∀ (n : Nat) (es : Entries), (es.dropOldestBy order n).Sublist es
  | 0, es => List.Sublist.refl es
  | n + 1, es =>
    (dropOldestBy_sublist n (es.dropOldest order)).trans (es.dropOldest_sublist order)

/-- Making room adds and changes nothing. -/
theorem fit_sublist (room : Nat) (es : Entries) : (es.fit order room).Sublist es :=
  dropOldestBy_sublist order _ es

/-- An entry is the one that was put in, or it was there before under another source. -/
theorem mem_insert {es : Entries} {source : KeySource} {e : Entry} {p : KeySource × Entry} :
    p ∈ es.insert source e ↔ (p ∈ es ∧ p.1 ≠ source) ∨ p = (source, e) := by
  simp [insert]

theorem nodup_sources_insert {es : Entries} (h : es.sources.Nodup) (source : KeySource)
    (e : Entry) : (es.insert source e).sources.Nodup := by
  simp only [sources, insert, List.map_append, List.map_cons, List.map_nil]
  refine List.nodup_append.mpr ⟨?_, List.nodup_cons.mpr ⟨List.not_mem_nil, List.nodup_nil⟩, ?_⟩
  · exact h.sublist (List.filter_sublist.map _)
  · intro a ha b hb hab
    obtain ⟨p, hp, rfl⟩ := List.mem_map.mp ha
    have hne : p.1 ≠ source := by simpa using (List.mem_filter.mp hp).2
    exact hne (hab.trans (List.mem_singleton.mp hb))

end Entries
end KeyCache

/-! ## 3. Caches -/

structure KeyCache where
  /-- How long an entry may be used. -/
  ttl : Duration := Duration.ofSeconds 600
  /-- How long an entry is not fetched again on request. -/
  minRefresh : Duration := Duration.ofSeconds 1
  maxEntries : Nat := 1024
  /-- The order in which entries make way that were stored at the same moment. -/
  order : KeyCache.Order := []
  entries : KeyCache.Entries := []
  /-- The serial number of the next set. -/
  nextSerial : Nat := 0
  /-- No source has two entries. -/
  distinct : entries.sources.Nodup := by exact List.nodup_nil
  /-- The next set gets a number that no set before it has. -/
  numbered : ∀ p ∈ entries, p.2.held.serial < nextSerial := by
    exact fun _ h => nomatch h
  deriving DecidableEq, Repr

namespace KeyCache

/-- How many entries there are. -/
def size (c : KeyCache) : Nat := c.entries.length

/-- The entry of a source. -/
def find? (c : KeyCache) (source : KeySource) : Option Entry :=
  c.entries.find? source

/-- The set of a source that may be used at some moment. -/
def live? (c : KeyCache) (source : KeySource) (now : Instant) : Option HeldKeys :=
  ((c.find? source).filter (·.isLive now)).map (·.held)

/-- The set of a source that may be used at some moment and is too young to be fetched again on a
request made before. -/
def recent? (c : KeyCache) (source : KeySource) (requestedAt now : Instant) : Option HeldKeys :=
  let usable (e : Entry) : Bool := e.isRecent c.minRefresh requestedAt && e.isLive now
  ((c.find? source).filter usable).map (·.held)

/-- Whether the moment can be told until which the entry of a source is recent. -/
def intervalTold (c : KeyCache) (source : KeySource) : Bool :=
  (c.find? source).all fun e => e.storedAt.reaches c.minRefresh

/-- Whether the moment can be told at which something expires that is stored at some moment. -/
def expiryTold (c : KeyCache) (now : Instant) : Bool :=
  now.reaches c.ttl

/-- The cache and the set after a set was stored at some moment. -/
def store (c : KeyCache) (source : KeySource) (keys : KeySet) (now : Instant) :
    HeldKeys × KeyCache :=
  let held : HeldKeys := ⟨c.nextSerial, keys⟩
  let entry : Entry := ⟨held, now, now + c.ttl⟩
  (held, { c with
    entries := (c.entries.insert source entry).fit c.order c.maxEntries
    nextSerial := c.nextSerial + 1
    distinct := (Entries.nodup_sources_insert c.distinct source entry).sublist
      ((Entries.fit_sublist _ _ _).map _)
    numbered := fun p hp => by
      rcases Entries.mem_insert.mp ((Entries.fit_sublist _ _ _).subset hp) with ⟨h, -⟩ | rfl
      · exact Nat.lt_succ_of_lt (c.numbered p h)
      · exact Nat.lt_succ_self _ })

/-- The cache without entries. -/
def clear (c : KeyCache) : KeyCache :=
  { c with entries := [], distinct := List.nodup_nil, numbered := fun _ h => nomatch h }

/-! ## 4. Settings -/

/-- What can be set before a cache is used. -/
inductive Setting where
  | ttl (d : Duration)
  | minRefresh (d : Duration)
  | maxEntries (n : Nat)
  /-- A set that is there from the beginning. -/
  | preloaded (source : KeySource) (keys : KeySet)
  deriving DecidableEq, Repr

/-- The entries with another time to live, counted from when each was stored. -/
def Entries.withTtl (es : Entries) (ttl : Duration) : Entries :=
  es.map fun (source, e) => (source, { e with expiresAt := e.storedAt + ttl })

theorem Entries.sources_withTtl (es : Entries) (ttl : Duration) :
    (es.withTtl ttl).sources = es.sources := by
  simp [sources, withTtl]

/-- Whether every moment can be told that setting something asks for. -/
def admits (c : KeyCache) (now : Instant) : Setting → Bool
  | .ttl d => c.entries.all fun p => p.2.storedAt.reaches d
  | .preloaded _ _ => c.expiryTold now
  | .minRefresh _ | .maxEntries _ => true

/-- The cache with one thing set, if every moment can be told that this asks for.  A new time to
live also holds for the entries that are there already; a new number of entries matters when the
next one is stored. -/
def configure (c : KeyCache) (now : Instant) : Setting → KeyCache
  | .ttl d => { c with
      ttl := d
      entries := c.entries.withTtl d
      distinct := (c.entries.sources_withTtl d).symm ▸ c.distinct
      numbered := fun p hp => by
        obtain ⟨q, hq, rfl⟩ := List.mem_map.mp hp
        exact c.numbered q hq }
  | .minRefresh d => { c with minRefresh := d }
  | .maxEntries n => { c with maxEntries := n }
  | .preloaded source keys => (c.store source keys now).2

/-- Sets one thing, or crashes; then there is no cache any more. -/
def configure? (c : KeyCache) (now : Instant) (x : Setting) : Option KeyCache :=
  if c.admits now x then some (c.configure now x) else none

/-- The text of a cache in diagnostics. -/
def debug (c : KeyCache) : String :=
  Text.record "KeyRetrievalCache" [
    ("cache_ttl", Duration.text c.ttl),
    ("min_refresh_interval", Duration.text c.minRefresh),
    ("max_entries", toString c.maxEntries),
    ("entries", toString c.size)]

end KeyCache
end TokenTrust

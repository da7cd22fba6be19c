/-
# Sources are independent

The keys of all sources share one cache, with its settings and its room, and anybody may come for
any of them at any time.  All the same, what becomes of one source is nobody else's business.

The entry of another source is left alone, unless a set is stored for which there is no room
(`State.find?_next_of_ne`).  What getting or refreshing keys gives, and whom it asks, is a function
of what the cache holds for that one source, of the clock and of the answer (`State.getProspect`,
`State.refreshProspect`), so it is the same wherever the caches agree at that source.

From this, a run can be cut down to one source (`State.unnumbered_replay`).  What is done for other
sources is left out, and each operation that is left finds the surroundings that it found in the
whole run.  As long as there is room for whatever is stored, it gives the same and asks the same.
Only the numbers of the sets are different, which tell how many were stored before.
-/
import Mathlib.Data.List.Perm.Subperm
import TokenTrust.Proofs.Budget
import TokenTrust.Proofs.Locality
import TokenTrust.Proofs.Room
import TokenTrust.Proofs.Transparency

namespace TokenTrust

open TokenTrust.Action TokenTrust.Retrieval

/-! ## 1. What a cache holds for one source -/

namespace KeyCache

variable {c c' : KeyCache} {source other : KeySource}

/-- What an entry holds, without the number of its set. -/
def Entry.content (e : Entry) : KeySet × Instant × Instant :=
  (e.held.keys, e.storedAt, e.expiresAt)

/-- **Two caches agree at a source**: they hold the same for it, and what is stored and refreshed
is stored and refreshed in the same way. -/
structure AgreeAt (source : KeySource) (c c' : KeyCache) : Prop where
  content : (c'.find? source).map Entry.content = (c.find? source).map Entry.content
  ttl : c'.ttl = c.ttl
  minRefresh : c'.minRefresh = c.minRefresh

theorem map_keys_live? (c : KeyCache) (source : KeySource) (now : Instant) :
    (c.live? source now).map (·.keys) =
      (((c.find? source).map Entry.content).filter fun content => now < content.2.2).map (·.1) := by
  rw [live?]
  cases c.find? source with
  | none => rfl
  | some e =>
    by_cases hlive : now < e.expiresAt
    · simp [Entry.isLive, Entry.content, Option.filter, hlive]
    · simp [Entry.isLive, Entry.content, Option.filter, hlive]

theorem map_keys_recent? (c : KeyCache) (source : KeySource) (requestedAt now : Instant) :
    (c.recent? source requestedAt now).map (·.keys) =
      (((c.find? source).map Entry.content).filter fun content =>
        requestedAt < content.2.1 + c.minRefresh ∧ now < content.2.2).map (·.1) := by
  rw [recent?]
  cases c.find? source with
  | none => rfl
  | some e =>
    by_cases hrecent : requestedAt < e.storedAt + c.minRefresh
    · by_cases hlive : now < e.expiresAt
      · simp [Entry.isLive, Entry.isRecent, Entry.content, Option.filter, hrecent, hlive]
      · simp [Entry.isLive, Entry.isRecent, Entry.content, Option.filter, hlive]
    · simp [Entry.isLive, Entry.isRecent, Entry.content, Option.filter, hrecent]

namespace AgreeAt

theorem live? (h : AgreeAt source c c') (now : Instant) :
    (c'.live? source now).map (·.keys) = (c.live? source now).map (·.keys) := by
  rw [map_keys_live?, map_keys_live?, h.content]

theorem recent? (h : AgreeAt source c c') (requestedAt now : Instant) :
    (c'.recent? source requestedAt now).map (·.keys) =
      (c.recent? source requestedAt now).map (·.keys) := by
  rw [map_keys_recent?, map_keys_recent?, h.content, h.minRefresh]

theorem intervalTold (h : AgreeAt source c c') :
    c'.intervalTold source = c.intervalTold source := by
  have htold (c : KeyCache) : c.intervalTold source =
      ((c.find? source).map Entry.content).all fun content =>
        Instant.reaches content.2.1 c.minRefresh := by
    rw [KeyCache.intervalTold]
    cases c.find? source <;> rfl
  rw [htold, htold, h.content, h.minRefresh]

theorem expiryTold (h : AgreeAt source c c') (now : Instant) :
    c'.expiryTold now = c.expiryTold now := by
  rw [KeyCache.expiryTold, KeyCache.expiryTold, h.ttl]

end AgreeAt

/-- **A cache mirrors another one at a source**: both agree at it, there is as much room, and no
more sources take it. -/
structure Mirrors (source : KeySource) (c c' : KeyCache) : Prop extends AgreeAt source c c' where
  maxEntries : c'.maxEntries = c.maxEntries
  sources : c'.entries.sources ⊆ c.entries.sources

/-- The cache without the entries of other sources. -/
def only (c : KeyCache) (source : KeySource) : KeyCache :=
  { c with
    entries := c.entries.filter (·.1 = source)
    distinct := c.distinct.sublist (List.filter_sublist.map _)
    numbered := fun p hp => c.numbered p (List.mem_filter.mp hp).1 }

namespace Mirrors

/-- A cache is mirrored by what is left of it if no other source has an entry. -/
theorem only (source : KeySource) (c : KeyCache) : Mirrors source c (c.only source) := by
  refine ⟨⟨?_, rfl, rfl⟩, rfl, fun x hx => ?_⟩
  · rw [find?, KeyCache.only, Entries.find?, List.find?_filter, find?, Entries.find?]
    simp [beq_eq_decide]
  · obtain ⟨p, hp, rfl⟩ := List.mem_map.mp hx
    exact List.mem_map_of_mem (List.mem_filter.mp hp).1

/-- Where a cache has room, so has one that mirrors it. -/
theorem hasRoom (h : Mirrors source c c') (hroom : c.HasRoom other) : c'.HasRoom other := by
  have hlength (c : KeyCache) : (c.entries.filter (·.1 ≠ other)).length =
      (c.entries.sources.filter (· ≠ other)).length := by
    rw [Entries.sources, List.filter_map, List.length_map]
    rfl
  have hsubset : c'.entries.sources.filter (· ≠ other) ⊆ c.entries.sources.filter (· ≠ other) := by
    intro x hx
    obtain ⟨hmem, hne⟩ := List.mem_filter.mp hx
    exact List.mem_filter.mpr ⟨h.sources hmem, hne⟩
  have hle := (List.Nodup.subperm (c'.distinct.filter _) hsubset).length_le
  rw [HasRoom, hlength] at hroom ⊢
  rw [h.maxEntries]
  exact Nat.lt_of_le_of_lt hle hroom

/-- The same set is stored in both caches. -/
theorem store (h : Mirrors source c c') (hroom : c.HasRoom source) (keys : KeySet)
    (now : Instant) :
    Mirrors source (c.store source keys now).2 (c'.store source keys now).2 := by
  have hroom' := h.hasRoom hroom
  refine ⟨⟨?_, h.ttl, h.minRefresh⟩, h.maxEntries, fun x hx => ?_⟩
  · rw [find?_store hroom, find?_store hroom', h.ttl]
    rfl
  · rcases (mem_sources_store hroom').mp hx with hold | hnew
    · exact (mem_sources_store hroom).mpr (Or.inl (h.sources hold))
    · exact (mem_sources_store hroom).mpr (Or.inr hnew)

/-- What is stored for another source changes nothing. -/
theorem store_left (h : Mirrors source c c') (hroom : c.HasRoom other) (hne : other ≠ source)
    (keys : KeySet) (now : Instant) : Mirrors source (c.store other keys now).2 c' := by
  refine ⟨⟨?_, h.ttl, h.minRefresh⟩, h.maxEntries, fun x hx => ?_⟩
  · rw [find?_store_of_ne hroom hne.symm, h.content]
  · exact (mem_sources_store hroom).mpr (Or.inl (h.sources hx))

/-- A time to live is set for the entry of a source as for all others. -/
theorem find?_withTtl (es : Entries) (ttl : Duration) (source : KeySource) :
    (es.withTtl ttl).find? source =
      (es.find? source).map fun e => { e with expiresAt := e.storedAt + ttl } := by
  rw [Entries.find?, Entries.withTtl, List.find?_map, Entries.find?, Option.map_map, Option.map_map]
  rfl

/-- Both caches are set up in the same way. -/
theorem configure (h : Mirrors source c c') (now : Instant) {x : Setting}
    (hx : ∀ other keys, x = .preloaded other keys → other = source ∧ c.HasRoom source) :
    Mirrors source (c.configure now x) (c'.configure now x) := by
  cases x with
  | ttl d =>
    refine ⟨⟨?_, rfl, h.minRefresh⟩, h.maxEntries, ?_⟩
    · have hexpires (c : KeyCache) : ((c.configure now (.ttl d)).find? source).map Entry.content =
          ((c.find? source).map Entry.content).map fun content =>
            (content.1, content.2.1, content.2.1 + d) := by
        change ((c.entries.withTtl d).find? source).map Entry.content = _
        rw [find?_withTtl, find?, Option.map_map, Option.map_map]
        rfl
      rw [hexpires, hexpires, h.content]
    · change (c'.entries.withTtl d).sources ⊆ (c.entries.withTtl d).sources
      rw [Entries.sources_withTtl, Entries.sources_withTtl]
      exact h.sources
  | minRefresh d => exact ⟨⟨h.content, h.ttl, rfl⟩, h.maxEntries, h.sources⟩
  | maxEntries n => exact ⟨⟨h.content, h.ttl, h.minRefresh⟩, rfl, h.sources⟩
  | preloaded other keys =>
    obtain ⟨rfl, hroom⟩ := hx other keys rfl
    exact h.store hroom keys now

theorem clear (h : Mirrors source c c') : Mirrors source c.clear c'.clear :=
  ⟨⟨rfl, h.ttl, h.minRefresh⟩, h.maxEntries, List.Subset.refl _⟩

end Mirrors
end KeyCache

/-! ## 2. What becomes of one source -/

namespace Retrieval

variable {out out' : Surroundings} {source : KeySource} {s s' s₁ s₁' : State}

/-- What a retrieval of keys leaves behind, apart from lines that are logged. -/
structure Effect where
  /-- How often the clock was read. -/
  readings : Nat
  asked : List KeySource
  /-- The set that was stored, and when. -/
  stored : Option (KeySet × Instant)

/-- **A retrieval at a source has an effect.** -/
structure Effect.Leads (e : Effect) (source : KeySource) (s s' : State) : Prop where
  readings : s'.readings = s.readings + e.readings
  requests : s'.requests = s.requests ++ e.asked
  keys : s'.keys = match e.stored with
    | none => s.keys
    | some (keys, moment) => (s.keys.store source keys moment).2

/-- The same, with the clock read before. -/
def Effect.late (e : Effect) (readings : Nat) : Effect :=
  { e with readings := readings + e.readings }

theorem Effect.Leads.late {e : Effect} {n : Nat} (h : e.Leads source (s.advance n) s₁) :
    (e.late n).Leads source s s₁ := by
  refine ⟨?_, h.requests, h.keys⟩
  rw [h.readings, Effect.late, State.advance_readings, Nat.add_assoc]

/-- How a retrieval of keys ends. -/
abbrev Prospect (α : Type) := Except Failure α × Effect

/-- How a fetch ends, by what it is answered with, the moment at which that would be stored, and
whether it can be told when it would expire. -/
def fetchProspect (source : KeySource) (moment : Instant) (told : Bool) :
    Except Failure KeySet → Prospect KeySet
  | .ok keys =>
    if told then (.ok keys, ⟨1, [source], some (keys, moment)⟩)
    else (.error .crash, ⟨1, [source], none⟩)
  | .error f => (.error f, ⟨0, [source], none⟩)

theorem Fetching.prospect {r : Except Failure HeldKeys} (h : Fetching out source s r s') :
    let p := fetchProspect source (out.clock s.readings)
      (s.keys.expiryTold (out.clock s.readings)) (keysOf (out.answer s.requests.length) source)
    r.map (·.keys) = p.1 ∧ p.2.Leads source s s' := by
  intro p
  have hr := h.requests_eq
  cases h with
  | crashed ha =>
    have hk : keysOf (out.answer s.requests.length) source = .error .crash := by rw [keysOf, ha]
    simp only [p, hk, fetchProspect]
    exact ⟨rfl, rfl, hr, rfl⟩
  | @failed e ha =>
    have hk : keysOf (out.answer s.requests.length) source =
        .error (.error (failureAt source.url e)) := by rw [keysOf, ha]
    simp only [p, hk, fetchProspect]
    exact ⟨rfl, rfl, hr, rfl⟩
  | @undated report ha hd =>
    have hk : keysOf (out.answer s.requests.length) source = .ok report.keys := by
      rw [keysOf, ha]
    simp only [p, hk, hd, fetchProspect]
    exact ⟨rfl, rfl, hr, rfl⟩
  | @stored report ha hd =>
    have hk : keysOf (out.answer s.requests.length) source = .ok report.keys := by
      rw [keysOf, ha]
    simp only [p, hk, hd, fetchProspect]
    exact ⟨rfl, rfl, hr, rfl⟩

/-- How a retrieval ends that looks into the cache twice before it fetches, by what it sees at both
looks.  It has read the clock so many times at the first one. -/
def lookProspect (readings : Nat) (first second : Option KeySet) (found fetched : KeySet → Gain)
    (fetch : Prospect KeySet) : Prospect Gain :=
  match first, second with
  | some keys, _ => (.ok (found keys), ⟨readings, [], none⟩)
  | none, some keys => (.ok (found keys), ⟨readings + 1, [], none⟩)
  | none, none => (fetch.1.map fetched, fetch.2.late (readings + 1))

end Retrieval

/-- A gain without the number of its set. -/
def Gain.unnumbered : Gain → Gain
  | .keys held origin => .keys ⟨0, held.keys⟩ origin
  | gain => gain

namespace State

variable {out out' : Surroundings} {source : KeySource} {s s' : State}

/-- **How getting keys ends**, by what is stored for their source and what is still to come. -/
def getProspect (out : Surroundings) (source : KeySource) (s : State) : Prospect Gain :=
  lookProspect 1 ((s.keys.live? source (out.clock s.readings)).map (·.keys))
    ((s.keys.live? source (out.clock (s.readings + 1))).map (·.keys))
    (fun keys => .keys ⟨0, keys⟩ (some .cache)) (fun keys => .keys ⟨0, keys⟩ (some .network))
    (fetchProspect source (out.clock (s.readings + 2))
      (s.keys.expiryTold (out.clock (s.readings + 2)))
      (keysOf (out.answer s.requests.length) source))

theorem reply_get (out : Surroundings) (source : KeySource) (s : State) :
    (s.reply out (.get source)).map Gain.unnumbered = (s.getProspect out source).1 ∧
      (s.getProspect out source).2.Leads source s (s.next out (.get source)) := by
  rw [reply, next]
  cases hrun : (getKeys source).run out s with
  | mk r s₁ =>
    rw [getProspect]
    cases getting_of_run hrun with
    | first h =>
      simp only [h, Option.map_some, lookProspect]
      exact ⟨rfl, rfl, by simp, rfl⟩
    | second h₁ h₂ =>
      simp only [h₁, h₂, Option.map_none, Option.map_some, lookProspect]
      exact ⟨rfl, rfl, by simp, rfl⟩
    | fetched h₁ h₂ hf =>
      obtain ⟨hresult, hleads⟩ := hf.prospect
      simp only [h₁, h₂, Option.map_none, lookProspect]
      exact ⟨congrArg (Except.map fun keys => Gain.keys ⟨0, keys⟩ (some .network)) hresult,
        hleads.late⟩
    | failed h₁ h₂ hf =>
      obtain ⟨hresult, hleads⟩ := hf.prospect
      simp only [h₁, h₂, Option.map_none, lookProspect]
      exact ⟨congrArg (Except.map fun keys => Gain.keys ⟨0, keys⟩ (some .network)) hresult,
        hleads.late⟩

/-- **How a refresh ends**, by what is stored for the source and what is still to come. -/
def refreshProspect (out : Surroundings) (source : KeySource) (s : State) : Prospect Gain :=
  let requestedAt := out.clock s.readings
  if s.keys.intervalTold source then lookProspect 2
    ((s.keys.recent? source requestedAt (out.clock (s.readings + 1))).map (·.keys))
    ((s.keys.recent? source requestedAt (out.clock (s.readings + 2))).map (·.keys))
    (fun keys => .keys ⟨0, keys⟩ none) (fun keys => .keys ⟨0, keys⟩ none)
    (fetchProspect source (out.clock (s.readings + 3))
      (s.keys.expiryTold (out.clock (s.readings + 3)))
      (keysOf (out.answer s.requests.length) source))
  else (.error .crash, ⟨1, [], none⟩)

theorem reply_refresh (out : Surroundings) (source : KeySource) (s : State) :
    (s.reply out (.refresh source)).map Gain.unnumbered = (s.refreshProspect out source).1 ∧
      (s.refreshProspect out source).2.Leads source s (s.next out (.refresh source)) := by
  rw [reply, next]
  cases hrun : (refreshKeys source).run out s with
  | mk r s₁ =>
    simp only [refreshProspect]
    cases refreshing_of_run hrun with
    | untold ht =>
      simp only [ht, Bool.false_eq_true, if_false]
      exact ⟨rfl, rfl, by simp, rfl⟩
    | limited h ht =>
      simp only [ht, if_true, h, Option.map_some, lookProspect]
      exact ⟨rfl, rfl, by simp, rfl⟩
    | waited h₁ h₂ ht =>
      simp only [ht, if_true, h₁, h₂, Option.map_none, Option.map_some, lookProspect]
      exact ⟨rfl, rfl, by simp, rfl⟩
    | fetched h₁ h₂ hf ht =>
      obtain ⟨hresult, hleads⟩ := hf.prospect
      simp only [ht, if_true, h₁, h₂, Option.map_none, lookProspect]
      refine ⟨?_, hleads.late⟩
      cases r with
      | error f => exact congrArg (Except.map fun keys => Gain.keys ⟨0, keys⟩ none) hresult
      | ok held => exact congrArg (Except.map fun keys => Gain.keys ⟨0, keys⟩ none) hresult

/-- **A retrieval of keys is a matter of its source**: where the caches agree at it, and the same is
still to come, it ends in the same way. -/
theorem exists_prospect {op : Operation} (hop : op = .get source ∨ op = .refresh source)
    (h : s.keys.AgreeAt source s'.keys) (hahead : out'.ahead s' = out.ahead s) :
    ∃ p : Prospect Gain,
      ((s.reply out op).map Gain.unnumbered = p.1 ∧ p.2.Leads source s (s.next out op)) ∧
      (s'.reply out' op).map Gain.unnumbered = p.1 ∧ p.2.Leads source s' (s'.next out' op) := by
  have hclock := Surroundings.clock_of_ahead hahead
  have hanswer : out'.answer s'.requests.length = out.answer s.requests.length :=
    Surroundings.answer_of_ahead hahead 0
  have hfirst : out'.clock s'.readings = out.clock s.readings := hclock 0
  rcases hop with rfl | rfl
  · refine ⟨_, reply_get out source s, ?_⟩
    have hsame : s'.getProspect out' source = s.getProspect out source := by
      simp only [getProspect, h.live?, h.expiryTold, hfirst, hclock, hanswer]
    rw [← hsame]
    exact reply_get out' source s'
  · refine ⟨_, reply_refresh out source s, ?_⟩
    have hsame : s'.refreshProspect out' source = s.refreshProspect out source := by
      simp only [refreshProspect, h.recent?, h.intervalTold, h.expiryTold, hfirst, hclock, hanswer]
    rw [← hsame]
    exact reply_refresh out' source s'

end State

/-! ## 3. Operations and sources -/

namespace Operation

/-- The source whose keys an operation gets, refreshes or preloads, if it does. -/
def source? (out : Surroundings) (s : State) : Operation → Option KeySource
  | .get source | .refresh source | .configure (.preloaded source _) => some source
  | .validate c t =>
    match SignatureCheck.precheck t, ((c.source t).run out s).1 with
    | .ok _, .ok source => some source
    | _, _ => none
  | _ => none

/-- **An operation crowds the cache**: it stores a set for which there is no room. -/
def Crowds (op : Operation) (out : Surroundings) (s : State) : Prop :=
  ∃ source, op.source? out s = some source ∧ (s.next out op).keys ≠ s.keys ∧
    ¬ s.keys.HasRoom source

/-- Whether an operation is about the keys of a source: it gets, refreshes or preloads them, or it
is about the keys of all sources. -/
def concerns (source : KeySource) : Operation → Bool
  | .get source' | .refresh source' | .configure (.preloaded source' _) => source' = source
  | .configure _ | .clear => true
  | .configureDiscovery _ | .discover _ | .validate _ _ => false

variable {out : Surroundings} {s : State} {op : Operation} {source : KeySource}

/-- Where there is room for the source of an operation, it crowds nothing. -/
theorem not_crowds_of_hasRoom (h : ∀ source, op.source? out s = some source →
    s.keys.HasRoom source) : ¬ op.Crowds out s := by
  rintro ⟨source, hs, -, hroom⟩
  exact hroom (h source hs)

/-- Where nothing is crowded, what is stored has room. -/
theorem hasRoom_of_not_crowds (h : ¬ op.Crowds out s) (hs : op.source? out s = some source)
    (hne : (s.next out op).keys ≠ s.keys) : s.keys.HasRoom source := by
  by_contra hroom
  exact h ⟨source, hs, hne, hroom⟩

end Operation

namespace State

variable {out out' : Surroundings} {source : KeySource} {s s' : State} {op : Operation}

/-- What an operation does to the cache that sets nothing up and forgets nothing: nothing, or it
stores a set for its source. -/
inductive Storing (out : Surroundings) (s : State) (op : Operation) : Prop
  | unchanged (h : (s.next out op).keys = s.keys)
  | stored {source : KeySource} {keys : KeySet} {moment : Instant}
    (hs : op.source? out s = some source)
    (h : (s.next out op).keys = (s.keys.store source keys moment).2)

theorem storing_of_visiting {s₀ : State} (hs : op.source? out s = some source)
    (h : Visiting out source s₀ (s.next out op)) (hkeys : s₀.keys = s.keys) :
    Storing out s op := by
  cases h with
  | spared _ hk => exact .unchanged (hk.trans hkeys)
  | failed _ _ hk => exact .unchanged (hk.trans hkeys)
  | undated _ _ _ _ _ hk => exact .unchanged (hk.trans hkeys)
  | stored _ _ _ _ hk => exact .stored hs (by rw [hk, hkeys])

theorem storing_next (out : Surroundings) (s : State) (source : KeySource)
    (h : op.concerns source = false ∨ op.retrieves = true) : Storing out s op := by
  cases op with
  | configure x =>
    cases x with
    | preloaded other keys => exact .stored rfl rfl
    | _ => simp [Operation.concerns, Operation.retrieves] at h
  | configureDiscovery => exact .unchanged rfl
  | clear => simp [Operation.concerns, Operation.retrieves] at h
  | get source => exact storing_of_visiting rfl (getting_of_run rfl).visiting rfl
  | refresh source => exact storing_of_visiting rfl (refreshing_of_run rfl).visiting rfl
  | discover url => exact .unchanged (discovering_of_run rfl).keys_eq
  | validate c t =>
    cases SignatureCheck.validating_next out c t s with
    | refused _ h => exact .unchanged (by rw [h])
    | sourceless _ hs => exact .unchanged (SignatureCheck.sourcing_of_run hs).keys_eq
    | @visited _ source' _ hp hs hv =>
      have hsource : Operation.source? out s (.validate c t) = some source' := by
        simp only [Operation.source?, hp, hs]
      exact storing_of_visiting hsource hv (SignatureCheck.sourcing_of_run hs).keys_eq

/-- **Other sources are left alone** by getting and refreshing keys.  Where the cache is crowded an
entry may make way, but it is never changed. -/
theorem find?_next_of_ne {other : KeySource} (hop : op.source? out s = some source)
    (hretrieves : op.retrieves = true) (hne : other ≠ source) :
    (s.next out op).keys.find? other = s.keys.find? other ∨
      op.Crowds out s ∧ (s.next out op).keys.find? other = none := by
  cases storing_next out s source (Or.inr hretrieves) with
  | unchanged h => exact Or.inl (by rw [h])
  | @stored source' keys moment hs h =>
    obtain rfl : source' = source := Option.some.inj (hs.symm.trans hop)
    by_cases hroom : s.keys.HasRoom source'
    · exact Or.inl (by rw [h, KeyCache.find?_store_of_ne hroom hne])
    · have hcrowds : op.Crowds out s :=
        ⟨source', hop, by rw [h]; exact KeyCache.store_ne _ _ _ _, hroom⟩
      rw [h]
      exact (KeyCache.find?_store_eq_or_none hne keys moment).imp_right fun hgone =>
        ⟨hcrowds, hgone⟩

/-- Where nothing is crowded, an operation that is not about a source leaves it alone. -/
theorem mirrors_left (h : s.keys.Mirrors source s'.keys) (hop : op.concerns source = false)
    (hs : op.source? out s ≠ some source) (hroom : ¬ op.Crowds out s) :
    (s.next out op).keys.Mirrors source s'.keys := by
  cases storing_next out s source (Or.inl hop) with
  | unchanged hk => rw [hk]; exact h
  | @stored other keys moment hother hk =>
    have hne : other ≠ source := by
      rintro rfl
      exact hs hother
    have hfits : s.keys.HasRoom other := Operation.hasRoom_of_not_crowds hroom hother
      (by rw [hk]; exact KeyCache.store_ne _ _ _ _)
    rw [hk]
    exact h.store_left hfits hne keys moment

end State

/-! ## 4. Runs -/

/-- **What happens when an operation is done**: what it gives, what it asks, and what the
surroundings show from then on. -/
structure Episode where
  op : Operation
  seen : Surroundings
  reply : Except Failure Gain
  asked : List KeySource

/-- The episode without the number of the set that it may give. -/
def Episode.unnumbered (e : Episode) : Episode :=
  { e with reply := e.reply.map Gain.unnumbered }

namespace State

variable {out out' : Surroundings} {source : KeySource} {s s' : State} {op : Operation}

/-- The episode of an operation. -/
def episode (out : Surroundings) (s : State) (op : Operation) : Episode :=
  ⟨op, out.ahead s, s.reply out op, (s.next out op).requests.drop s.requests.length⟩

/-- The episodes of a run. -/
def course (out : Surroundings) : State → List Operation → List Episode
  | _, [] => []
  | s, op :: ops => s.episode out op :: course out (s.next out op) ops

/-- Some operations done again from another state, each in the surroundings that it was done in
before. -/
def replay : State → List Episode → List Episode
  | _, [] => []
  | s, e :: rest =>
    s.episode (e.seen.postponed s) e.op :: replay (s.next (e.seen.postponed s) e.op) rest

/-- **A run leaves a source alone** but for what is done for it by name: whatever is stored has
room, and no token comes to the source by a check. -/
inductive Uncrowded (out : Surroundings) (source : KeySource) : State → List Operation → Prop
  | nil {s : State} : Uncrowded out source s []
  | cons {s : State} {op : Operation} {ops : List Operation} (hroom : ¬ op.Crowds out s)
    (hs : op.concerns source = false → op.source? out s ≠ some source)
    (hrest : Uncrowded out source (s.next out op) ops) : Uncrowded out source s (op :: ops)

/-- Where both caches agree at a source, getting and refreshing its keys goes the same way. -/
theorem unnumbered_episode (hop : op = .get source ∨ op = .refresh source)
    (h : s.keys.AgreeAt source s'.keys) (hahead : out'.ahead s' = out.ahead s) :
    (s'.episode out' op).unnumbered = (s.episode out op).unnumbered := by
  obtain ⟨p, ⟨hreply, hleads⟩, hreply', hleads'⟩ := exists_prospect hop h hahead
  simp only [Episode.unnumbered, episode, hreply, hreply', hahead, hleads.requests,
    hleads'.requests, List.drop_left]

/-- An effect is the same on a cache and on one that mirrors it. -/
theorem mirrors_of_leads {e : Effect} {s₁ s₁' : State} (h : s.keys.Mirrors source s'.keys)
    (hl : e.Leads source s s₁) (hl' : e.Leads source s' s₁')
    (hroom : s₁.keys ≠ s.keys → s.keys.HasRoom source) :
    s₁.keys.Mirrors source s₁'.keys := by
  have hk := hl.keys
  have hk' := hl'.keys
  cases hstored : e.stored with
  | none =>
    simp only [hstored] at hk hk'
    rw [hk, hk']
    exact h
  | some stored =>
    simp only [hstored] at hk hk'
    have hfits : s.keys.HasRoom source :=
      hroom (by rw [hk]; exact KeyCache.store_ne _ _ _ _)
    rw [hk, hk']
    exact h.store hfits _ _

/-- **An operation that is about a source** does the same in both states, and one still mirrors the
other. -/
theorem next_of_concerns (h : s.keys.Mirrors source s'.keys) (hahead : out'.ahead s' = out.ahead s)
    (hop : op.concerns source = true) (hroom : ¬ op.Crowds out s) :
    (s'.episode out' op).unnumbered = (s.episode out op).unnumbered ∧
      (s.next out op).keys.Mirrors source (s'.next out' op).keys := by
  have retrieved (hop : op = .get source ∨ op = .refresh source)
      (hs : op.source? out s = some source) :
      (s'.episode out' op).unnumbered = (s.episode out op).unnumbered ∧
        (s.next out op).keys.Mirrors source (s'.next out' op).keys := by
    obtain ⟨p, ⟨-, hleads⟩, -, hleads'⟩ := exists_prospect hop h.toAgreeAt hahead
    exact ⟨unnumbered_episode hop h.toAgreeAt hahead,
      mirrors_of_leads h hleads hleads' (Operation.hasRoom_of_not_crowds hroom hs)⟩
  have same (hr : (s.next out op).requests = s.requests)
      (hr' : (s'.next out' op).requests = s'.requests)
      (hreply : s'.reply out' op = s.reply out op) :
      (s'.episode out' op).unnumbered = (s.episode out op).unnumbered := by
    simp only [Episode.unnumbered, episode, hahead, hr, hr', hreply, List.drop_length]
  cases op with
  | get other =>
    obtain rfl : other = source := by simpa [Operation.concerns] using hop
    exact retrieved (Or.inl rfl) rfl
  | refresh other =>
    obtain rfl : other = source := by simpa [Operation.concerns] using hop
    exact retrieved (Or.inr rfl) rfl
  | clear => exact ⟨same rfl rfl rfl, h.clear⟩
  | configure x =>
    refine ⟨same rfl rfl rfl, ?_⟩
    have hmoment : out'.clock s'.readings = out.clock s.readings :=
      Surroundings.clock_of_ahead hahead 0
    rw [next, next, hmoment]
    refine h.configure _ fun other keys hx => ?_
    subst hx
    obtain rfl : other = source := by simpa [Operation.concerns] using hop
    exact ⟨rfl, Operation.hasRoom_of_not_crowds hroom rfl (KeyCache.store_ne _ _ _ _)⟩
  | configureDiscovery => simp [Operation.concerns] at hop
  | discover => simp [Operation.concerns] at hop
  | validate => simp [Operation.concerns] at hop

/-- The episodes of a run that are about a source. -/
def courseOf (out : Surroundings) (source : KeySource) (s : State) (ops : List Operation) :
    List Episode :=
  (s.course out ops).filter (·.op.concerns source)

theorem courseOf_cons (ops : List Operation) :
    s.courseOf out source (op :: ops) = if op.concerns source then
      s.episode out op :: (s.next out op).courseOf out source ops
    else (s.next out op).courseOf out source ops := by
  rw [courseOf, course, List.filter_cons]
  rfl

/-- **A run can be cut down to a source.** -/
theorem unnumbered_replay {ops : List Operation} (hrun : Uncrowded out source s ops)
    (h : s.keys.Mirrors source s'.keys) :
    (s'.replay (s.courseOf out source ops)).map Episode.unnumbered =
      (s.courseOf out source ops).map Episode.unnumbered := by
  induction hrun generalizing s' with
  | nil => rfl
  | @cons s op ops hroom hs hrest ih =>
    rw [courseOf_cons]
    by_cases hop : op.concerns source
    · have hahead := Surroundings.ahead_postponed (out.ahead s) s'
      obtain ⟨hepisode, hmirrors⟩ := next_of_concerns h hahead hop hroom
      rw [if_pos hop, replay, List.map_cons, List.map_cons]
      exact congrArg₂ List.cons hepisode (ih hmirrors)
    · rw [if_neg hop]
      have hother : op.concerns source = false := by simpa using hop
      exact ih (mirrors_left h hother (hs hother) hroom)

/-- **Sources are independent.**  Whatever is stored, and whatever the network answers, getting or
refreshing the keys of a source

* leaves the entry of every other source exactly as it was, unless it stores a set for which there
  is no room: then the other entry may make way;
* gives the same and asks the same wherever the cache holds the same for that source, whatever it
  holds for others.

So in a run that crowds nothing, what is done for a source gives the same and asks the same as if
nothing else had been done, from the same cache or from one that holds less for other sources. -/
theorem sources_independent (out : Surroundings) (s : State) (source : KeySource) :
    (∀ op, op = .get source ∨ op = .refresh source →
      (∀ other, other ≠ source → (s.next out op).keys.find? other = s.keys.find? other ∨
        op.Crowds out s ∧ (s.next out op).keys.find? other = none) ∧
      ∀ (out' : Surroundings) (s' : State), s.keys.AgreeAt source s'.keys →
        out'.ahead s' = out.ahead s →
        (s'.episode out' op).unnumbered = (s.episode out op).unnumbered) ∧
    ∀ (ops : List Operation) (s' : State), Uncrowded out source s ops →
      s.keys.Mirrors source s'.keys →
      (s'.replay (s.courseOf out source ops)).map Episode.unnumbered =
        (s.courseOf out source ops).map Episode.unnumbered := by
  refine ⟨fun op hop => ⟨fun other hne => ?_, fun out' s' h hahead => ?_⟩,
    fun ops s' hrun h => unnumbered_replay hrun h⟩
  · rcases hop with rfl | rfl
    · exact find?_next_of_ne rfl rfl hne
    · exact find?_next_of_ne rfl rfl hne
  · exact unnumbered_episode hop h hahead

/-- No tenant and the empty tenant are two sources.  The keys of the second one are there before,
and a refresh of them crashes between two calls for the first one.  Without all this, the calls for
the first one go the same way. -/
theorem sources_independent_two_tenants :
    let place : Url := ⟨"https", some ⟨"", none, some (.domain "my.auth.com"), none⟩,
      .segments ["token_keys"], none, none⟩
    let source : KeySource := ⟨place, none⟩
    let other : KeySource := ⟨place, some ""⟩
    let empty : Answer := .body (Text.Utf8.bytes "\x7b\x22keys\x22:[]\x7d")
    let out : Surroundings :=
      ⟨fun n => Duration.ofSeconds n, 0, fun n _ => if n = 0 then empty else .crash⟩
    let s : State := State.next out {} (.configure (.preloaded other .empty))
    let alone : State := { s with keys := s.keys.only source }
    let ops : List Operation := [.get source, .refresh other, .get source]
    let given (origin : Origin) (serial : Nat) : Except Failure Gain :=
      .ok (.keys ⟨serial, .empty⟩ (some origin))
    (s.next out (.get source)).keys.find? other = s.keys.find? other ∧
      (alone.replay (s.courseOf out source ops)).map Episode.unnumbered =
        (s.courseOf out source ops).map Episode.unnumbered ∧
      s.replies out ops = [given .network 1, .error .crash, given .cache 1] ∧
      (s.courseOf out source ops).map (·.reply) = [given .network 1, given .cache 1] := by
  intro place source other empty out s alone ops given
  obtain ⟨hone, hruns⟩ := sources_independent out s source
  have calm {s : State} {op : Operation} {x : KeySource} (hx : op.source? out s = some x)
      (hroom : s.keys.HasRoom x) : ¬ op.Crowds out s := by
    refine Operation.not_crowds_of_hasRoom fun y hy => ?_
    obtain rfl : x = y := Option.some.inj (hx.symm.trans hy)
    exact hroom
  have hfirst : ¬ (Operation.get source).Crowds out s := calm rfl (by decide +kernel)
  have huncrowded : Uncrowded out source s ops :=
    .cons hfirst (by decide +kernel) (.cons (calm rfl (by decide +kernel)) (by decide +kernel)
      (.cons (calm rfl (by decide +kernel)) (by decide +kernel) .nil))
  refine ⟨?_, hruns ops alone huncrowded (.only source s.keys), by decide +kernel,
    by decide +kernel⟩
  rcases (hone (.get source) (Or.inl rfl)).1 other (by decide +kernel) with h | ⟨hcrowds, -⟩
  · exact h
  · exact absurd hcrowds hfirst

end State
end TokenTrust

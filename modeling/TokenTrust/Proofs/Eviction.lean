/-
# What makes way

A cache that holds too much lets the entries go that were stored first, one at a time.  Each of them
is among the oldest of those that are there when it goes, and so none of them is younger than any
that stays in the end (`Entries.trimmed_fit`).  Where entries were stored at the same moment, it is
left open which of them goes.

What is stored later than everything else goes last.  So it is there afterwards if there is any room
at all, and the others share what room it leaves as if it were not there (`entries_store_of_later`).
That is what a fetch does to the entries, whether somebody fetches alone or among others.
-/
import TokenTrust.Proofs.Callers
import TokenTrust.Proofs.Room

namespace TokenTrust

open TokenTrust.Action TokenTrust.Retrieval

namespace KeyCache

/-! ## 1. One after another -/

namespace Entries

/-- **Some entries are those of others for which there is room**, and none that had to go is younger
than any of them. -/
structure Trimmed (es : Entries) (room : Nat) (kept : Entries) : Prop where
  length : kept.length = min es.length room
  sublist : kept.Sublist es
  oldest : ∃ gone : Entries, (gone ++ kept).Perm es ∧
    ∀ p ∈ gone, ∀ q ∈ kept, p.2.storedAt ≤ q.2.storedAt

variable (order : Order)

/-- **What goes first is none the younger** for any other entry. -/
theorem exists_oldest {es : Entries} (hes : es ≠ []) :
    ∃ p, (p :: es.dropOldest order).Perm es ∧ ∀ q ∈ es, p.2.storedAt ≤ q.2.storedAt := by
  obtain ⟨before, p, rest, hsplit, herased, hleast, -⟩ := exists_dropOldest order hes
  refine ⟨p, ?_, fun q hq => Entry.storedAt_le_of_yields (hleast q hq)⟩
  rw [herased, hsplit]
  exact List.perm_middle.symm

theorem exists_gone (n : Nat) (es : Entries) : ∃ gone : Entries,
    (gone ++ es.dropOldestBy order n).Perm es ∧
      ∀ p ∈ gone, ∀ q ∈ es.dropOldestBy order n, p.2.storedAt ≤ q.2.storedAt := by
  induction n generalizing es with
  | zero => exact ⟨[], .refl _, nofun⟩
  | succ n ih =>
    rw [dropOldestBy]
    obtain ⟨gone, hperm, hold⟩ := ih (es.dropOldest order)
    by_cases hes : es = []
    · subst hes
      exact ⟨gone, hperm, hold⟩
    obtain ⟨p, hp, hleast⟩ := exists_oldest order hes
    refine ⟨p :: gone, (hperm.cons p).trans hp, fun p' hp' q hq => ?_⟩
    rcases List.mem_cons.mp hp' with rfl | hgone
    · exact hleast q ((es.dropOldest_sublist order).subset
        ((dropOldestBy_sublist order n _).subset hq))
    · exact hold p' hgone q hq

/-- **Those make way that were stored first**, just as many as there are too many. -/
theorem trimmed_fit (room : Nat) (es : Entries) : Trimmed es room (es.fit order room) where
  length := length_fit order room es
  sublist := fit_sublist order room es
  oldest := exists_gone order _ es

/-- The entries of other sources. -/
def besides (es : Entries) (source : KeySource) : Entries := es.filter (·.1 ≠ source)

end Entries

/-! ## 2. What is stored last -/

variable {c : KeyCache} {source : KeySource} {keys : KeySet} {now : Instant}

/-- **What is stored later than everything else is there**, and the entries of other sources have
one place less. -/
theorem entries_store_of_later (hroom : 1 ≤ c.maxEntries)
    (h : ∀ p ∈ c.entries.besides source, p.2.storedAt < now) :
    (c.store source keys now).2.entries =
      (c.entries.besides source).fit c.order (c.maxEntries - 1) ++
        [(source, ⟨⟨c.nextSerial, keys⟩, now, now + c.ttl⟩)] := by
  change Entries.fit c.order c.maxEntries (c.entries.besides source ++ [_]) = _
  rw [Entries.fit, Entries.dropOldestBy_concat c.order _ _ ?_ h, Entries.fit, List.length_append,
    List.length_singleton]
  · congr 2
    omega
  · rw [List.length_append, List.length_singleton]
    omega

/-- **A cache has taken up an entry**: it holds it, and of the entries of other sources it holds
those that were stored last, as many as there is room for. -/
structure TakenUp (c : KeyCache) (source : KeySource) (keys : KeySet) (now : Instant)
    (c' : KeyCache) : Prop where
  found : c'.find? source = some ⟨⟨c.nextSerial, keys⟩, now, now + c.ttl⟩
  others : (c.entries.besides source).Trimmed (c.maxEntries - 1) (c'.entries.besides source)

theorem takenUp_store (hroom : 1 ≤ c.maxEntries)
    (h : ∀ p ∈ c.entries.besides source, p.2.storedAt < now) :
    TakenUp c source keys now (c.store source keys now).2 where
  found := find?_store_of_others hroom fun p hp hne =>
    h p (List.mem_filter.mpr ⟨hp, by simpa using hne⟩)
  others := by
    have hbesides : (c.store source keys now).2.entries.besides source =
        (c.entries.besides source).fit c.order (c.maxEntries - 1) := by
      rw [entries_store_of_later hroom h, Entries.besides, List.filter_append,
        List.filter_eq_self.mpr]
      · simp
      · intro p hp
        exact (List.mem_filter.mp ((Entries.fit_sublist _ _ _).subset hp)).2
    rw [hbesides]
    exact Entries.trimmed_fit _ _ _

/-! ## 3. Fetches -/

/-- **The oldest make way.**  Making room leaves as many entries as there is room for, unchanged,
and none that goes was stored later than one that stays.  So a fetch that stores something, later
than all that is there for other sources, leaves it in the cache if there is any room, and with it
those of the others that were stored last, as many as there is room for then.  It is so for someone
who fetches alone, and for any step of one among others with which it stores what it has fetched. -/
theorem oldest_make_way :
    (∀ (order : Order) (es : Entries) (room : Nat), es.Trimmed room (es.fit order room)) ∧
      (∀ (out : Surroundings) (s s' : State) (source : KeySource) (held : HeldKeys),
        (fetchKeys source).run out s = (.ok held, s') → 1 ≤ s.keys.maxEntries →
        (∀ p ∈ s.keys.entries.besides source, p.2.storedAt < out.clock s.readings) →
        TakenUp s.keys source held.keys (out.clock s.readings) s'.keys) ∧
      ∀ (out : Surroundings) (n : Nat) (c : Crowd n) (t : Fin n) (w : Wanted) (g : Gate) (k : Nat)
        (keys : KeySet) (moment : Instant), c.place t = .inside w g (.storing k keys moment) →
        1 ≤ c.state.keys.maxEntries →
        (∀ p ∈ c.state.keys.entries.besides w.source, p.2.storedAt < moment) →
        TakenUp c.state.keys w.source keys moment (c.next out (.go t)).state.keys := by
  refine ⟨fun order es room => Entries.trimmed_fit order room es,
    fun out s s' source held hrun hroom h => ?_,
    fun out n c t w g k keys moment ht hroom h => ?_⟩
  · cases fetching_of_run hrun with
    | stored => exact takenUp_store hroom h
  · have hnext : (c.next out (.go t)).state.keys =
        (c.state.keys.store w.source keys moment).2 := by
      rw [Crowd.next, Crowd.step, ht]
      rfl
    rw [hnext]
    exact takenUp_store hroom h

/-- Two sets were stored at once and one later, and there is room for two.  When the keys of another
tenant are fetched, they are there, and of the others only the one that was stored last. -/
theorem oldest_make_way_four_tenants :
    let place : Url := ⟨"https", some ⟨"", none, some (.domain "my.auth.com"), none⟩,
      .segments ["token_keys"], none, none⟩
    let out : Surroundings := ⟨fun n => 10 + n, 0,
      fun _ _ => .body (Text.Utf8.bytes "\x7b\x22keys\x22:[]\x7d")⟩
    let cache : KeyCache := KeyCache.configure (KeyCache.configure (KeyCache.configure
      (KeyCache.configure {} 1 (.preloaded ⟨place, some "a"⟩ .empty)) 2
      (.preloaded ⟨place, some "b"⟩ .empty)) 1 (.preloaded ⟨place, some "c"⟩ .empty)) 3
      (.maxEntries 2)
    let s : State := { keys := cache }
    let s' : State := ((fetchKeys ⟨place, some "d"⟩).run out s).2
    s'.keys.find? ⟨place, some "d"⟩ = some ⟨⟨3, .empty⟩, 10, 10 + cache.ttl⟩ ∧
      (s'.keys.entries.besides ⟨place, some "d"⟩).length = 1 := by
  intro place out cache s s'
  have hresult : ((fetchKeys ⟨place, some "d"⟩).run out s).1 = .ok ⟨3, .empty⟩ := by
    decide +kernel
  have hrun : (fetchKeys ⟨place, some "d"⟩).run out s = (.ok ⟨3, .empty⟩, s') := by
    rw [← hresult]
  have htaken := oldest_make_way.2.1 out s s' ⟨place, some "d"⟩ ⟨3, .empty⟩ hrun (by decide +kernel)
    (by decide +kernel)
  refine ⟨htaken.found, htaken.others.length.trans ?_⟩
  decide +kernel

end KeyCache
end TokenTrust

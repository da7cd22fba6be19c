/-
# One time to live for all entries

Each entry says when it expires, and so it is written down in many places what the time to live of
the cache was: wherever something is stored.  They agree at all times (`KeyCache.Timed`).  What is
stored gets the time to live that holds then, and setting another one goes through all entries; the
same is true of callers who come at the same time.

Therefore an entry may be used as long as its age allows, by the time to live that holds now
(`hits_get_iff`, `hits_refresh_iff`), and it is of no consequence when that was set.  Whatever is
set besides may be set before or after it (`KeyCache.configure_ttl_comm`), another time to live
only matters if it comes later (`KeyCache.configure_ttl_ttl`), so all that is set can be put in an
order in which the time to live comes last (`KeyCache.setUp_eq`).

That is so if all of it can be set.  A time to live so long that nobody can tell when it is over
crashes whoever stores something, even if it would be replaced at once.
-/
import TokenTrust.Proofs.Exclusion
import TokenTrust.Proofs.Provenance

namespace TokenTrust

open TokenTrust.Action TokenTrust.Retrieval

/-! ## 1. Setting the time to live -/

namespace KeyCache

/-- A cache is what it holds and what it was told. -/
theorem eq_of_fields {c c' : KeyCache} (httl : c.ttl = c'.ttl)
    (hinterval : c.minRefresh = c'.minRefresh) (hroom : c.maxEntries = c'.maxEntries)
    (horder : c.order = c'.order) (hentries : c.entries = c'.entries)
    (hserial : c.nextSerial = c'.nextSerial) : c = c' := by
  cases c
  cases c'
  cases httl
  cases hinterval
  cases hroom
  cases horder
  cases hentries
  cases hserial
  rfl

namespace Entries

variable (es : Entries) (d d' : Duration)

/-- Of two times to live the later one counts. -/
theorem withTtl_withTtl : (es.withTtl d).withTtl d' = es.withTtl d' := by
  simp [withTtl, Function.comp_def]

/-- The time to live can be set after something was put in, or before. -/
theorem withTtl_insert (source : KeySource) (held : HeldKeys) (moment expiry : Instant) :
    (es.insert source ⟨held, moment, expiry⟩).withTtl d =
      (es.withTtl d).insert source ⟨held, moment, moment + d⟩ := by
  simp [insert, withTtl, List.filter_map, Function.comp_def]

/-- It has no influence on what makes way. -/
theorem withTtl_fit (order : Order) (room : Nat) :
    (es.fit order room).withTtl d = (es.withTtl d).fit order room :=
  (fit_map (f := fun m => (m.1, { m.2 with expiresAt := m.2.storedAt + d }))
    (fun _ _ => rfl) room es).symm

end Entries

variable {c : KeyCache}

/-- The time to live that a setting gives. -/
def Setting.ttl? : Setting → Option Duration
  | .ttl d => some d
  | _ => none

/-- **Of two times to live the later one counts.** -/
theorem configure_ttl_ttl (c : KeyCache) (now now' : Instant) (d d' : Duration) :
    (c.configure now (.ttl d)).configure now' (.ttl d') = c.configure now' (.ttl d') :=
  eq_of_fields rfl rfl rfl rfl (c.entries.withTtl_withTtl d d') rfl

/-- **Anything else may be set before the time to live or after it.** -/
theorem configure_ttl_comm {x : Setting} (hx : x.ttl? = none) (c : KeyCache) (now now' : Instant)
    (d : Duration) :
    (c.configure now (.ttl d)).configure now' x = (c.configure now' x).configure now (.ttl d) := by
  cases x with
  | ttl d' => exact nomatch hx
  | minRefresh => rfl
  | maxEntries => rfl
  | preloaded source keys =>
    refine eq_of_fields rfl rfl rfl rfl ?_ rfl
    change (Entries.insert (c.entries.withTtl d) source _).fit c.order c.maxEntries =
      ((c.entries.insert source _).fit c.order c.maxEntries).withTtl d
    rw [Entries.withTtl_fit, Entries.withTtl_insert]
    rfl

/-! ## 2. Setting up -/

/-- **Sets some things**, each at its own moment, or crashes at one of them. -/
def setUp? (c : KeyCache) (calls : List (Instant × Setting)) : Option KeyCache :=
  calls.foldlM (fun c call => c.configure? call.1 call.2) c

/-- The cache after some things were set, each at its own moment, if all of it could be set. -/
def setUp (c : KeyCache) (calls : List (Instant × Setting)) : KeyCache :=
  calls.foldl (fun c call => c.configure call.1 call.2) c

/-- The time to live that was set last. -/
def lastTtl? (calls : List (Instant × Setting)) : Option Duration :=
  (calls.filterMap (·.2.ttl?)).getLast?

/-- What was set besides the time to live, and when. -/
def besidesTtl (calls : List (Instant × Setting)) : List (Instant × Setting) :=
  calls.filter (·.2.ttl?.isNone)

/-- The times to live that a new cache has while some things are set: the one it has at first, and
those that are set. -/
def ttls (calls : List (Instant × Setting)) : List Duration :=
  ({} : KeyCache).ttl :: calls.filterMap (·.2.ttl?)

theorem setUp?_cons (c : KeyCache) (call : Instant × Setting) (calls : List (Instant × Setting)) :
    c.setUp? (call :: calls) =
      if c.admits call.1 call.2 then (c.configure call.1 call.2).setUp? calls else none := by
  rw [setUp?, List.foldlM_cons, configure?]
  cases c.admits call.1 call.2 <;> rfl

/-- Where nothing crashes, there is one thing that can come out. -/
theorem eq_setUp_of_setUp? {c c' : KeyCache} {calls : List (Instant × Setting)}
    (h : c.setUp? calls = some c') : c' = c.setUp calls := by
  induction calls generalizing c with
  | nil => exact (Option.some.inj h).symm
  | cons call calls ih =>
    rw [setUp?_cons, Option.ite_none_right_eq_some] at h
    exact ih h.2

/-- **Everything can be set** if each moment at which something is set, or was stored, can be
followed by each time to live. -/
theorem exists_setUp?_eq_some {c : KeyCache} {calls : List (Instant × Setting)} {ds : List Duration}
    (hcalls : ∀ call ∈ calls, ∀ d ∈ ds, call.1.reaches d = true)
    (hset : ∀ call ∈ calls, ∀ d, call.2.ttl? = some d → d ∈ ds) (hc : c.ttl ∈ ds)
    (hentries : ∀ p ∈ c.entries, ∀ d ∈ ds, p.2.storedAt.reaches d = true) :
    ∃ c', c.setUp? calls = some c' := by
  induction calls generalizing c with
  | nil => exact ⟨c, rfl⟩
  | cons call calls ih =>
    obtain ⟨now, x⟩ := call
    obtain ⟨hnow, hcalls⟩ := List.forall_mem_cons.mp hcalls
    obtain ⟨hx, hset⟩ := List.forall_mem_cons.mp hset
    have hadmits : c.admits now x = true := by
      cases x with
      | ttl d => exact List.all_eq_true.mpr fun p hp => hentries p hp d (hx d rfl)
      | minRefresh | maxEntries => rfl
      | preloaded => exact hnow _ hc
    rw [setUp?_cons, if_pos hadmits]
    refine ih hcalls hset ?_ fun p hp => ?_
    · cases x with
      | ttl d => exact hx d rfl
      | _ => exact hc
    · rcases mem_configure hp with ⟨e₀, he₀, -, hat⟩ | ⟨-, hat⟩
      · exact hat ▸ hentries _ he₀
      · exact hat ▸ hnow

theorem setUp_concat (c : KeyCache) (calls : List (Instant × Setting)) (now : Instant)
    (x : Setting) : c.setUp (calls ++ [(now, x)]) = (c.setUp calls).configure now x :=
  List.foldl_append

/-- **The time to live might as well be set at the end.** -/
theorem setUp_eq (c : KeyCache) (calls : List (Instant × Setting)) :
    c.setUp calls = match lastTtl? calls with
      | some d => (c.setUp (besidesTtl calls)).configure 0 (.ttl d)
      | none => c.setUp (besidesTtl calls) := by
  induction calls using List.reverseRecOn with
  | nil => rfl
  | append_singleton calls call ih =>
    obtain ⟨now, x⟩ := call
    rw [setUp_concat, ih]
    cases hx : x.ttl? with
    | some d =>
      obtain rfl : x = .ttl d := by
        cases x with
        | ttl d' => rw [Option.some.inj hx]
        | _ => exact nomatch hx
      have hlast : lastTtl? (calls ++ [(now, .ttl d)]) = some d := by
        simp [lastTtl?, Setting.ttl?]
      have hbesides : besidesTtl (calls ++ [(now, .ttl d)]) = besidesTtl calls := by
        simp [besidesTtl, Setting.ttl?]
      rw [hlast, hbesides]
      cases lastTtl? calls with
      | some d' => exact configure_ttl_ttl _ _ _ _ _
      | none => rfl
    | none =>
      have hlast : lastTtl? (calls ++ [(now, x)]) = lastTtl? calls := by
        simp [lastTtl?, hx]
      have hbesides : besidesTtl (calls ++ [(now, x)]) = besidesTtl calls ++ [(now, x)] := by
        simp [besidesTtl, hx]
      rw [hlast, hbesides, setUp_concat]
      cases lastTtl? calls with
      | some d => exact configure_ttl_comm hx _ _ _ _
      | none => rfl

/-- Setting up does not depend on when the time to live is set, only on the last one. -/
theorem setUp_congr {calls calls' : List (Instant × Setting)}
    (hbesides : besidesTtl calls = besidesTtl calls') (hlast : lastTtl? calls = lastTtl? calls')
    (c : KeyCache) : c.setUp calls = c.setUp calls' := by
  rw [setUp_eq c calls, setUp_eq c calls', hbesides, hlast]

end KeyCache

/-! ## 3. Hits -/

/-- **A call hits the cache**: it returns the set that is stored, and asks nobody. -/
inductive Operation.Hits (out : Surroundings) (s : State) : Operation → HeldKeys → Prop
  | get {source : KeySource} {held : HeldKeys}
    (h : ((getKeys source).run out s).1 = .ok (held, .cache)) : Hits out s (.get source) held
  | refresh {source : KeySource} {held : HeldKeys}
    (h : ((refreshKeys source).run out s).1 = .ok held)
    (hrequests : ((refreshKeys source).run out s).2.requests = s.requests) :
    Hits out s (.refresh source) held

section

variable {out : Surroundings} {s : State} {source : KeySource} {held : HeldKeys}

theorem KeyCache.Timed.live?_eq_some_iff {c : KeyCache} (ht : c.Timed) {now : Instant} :
    c.live? source now = some held ↔
      ∃ e, c.find? source = some e ∧ now < e.storedAt + c.ttl ∧ e.held = held := by
  rw [KeyCache.live?_eq_some_iff]
  refine exists_congr fun e => and_congr_right fun he => ?_
  rw [ht source e (KeyCache.mem_of_find? he)]

theorem KeyCache.Timed.recent?_eq_some_iff {c : KeyCache} (ht : c.Timed)
    {requestedAt now : Instant} :
    c.recent? source requestedAt now = some held ↔
      ∃ e, c.find? source = some e ∧ requestedAt < e.storedAt + c.minRefresh ∧
        now < e.storedAt + c.ttl ∧ e.held = held := by
  rw [KeyCache.recent?_eq_some_iff]
  refine exists_congr fun e => and_congr_right fun he => ?_
  rw [ht source e (KeyCache.mem_of_find? he)]

/-- **Getting hits an entry that is younger than the time to live**, at the first look or at the
second. -/
theorem hits_get_iff (ht : s.keys.Timed) :
    Operation.Hits out s (.get source) held ↔
      ∃ e, s.keys.find? source = some e ∧ e.held = held ∧
        (out.clock s.readings < e.storedAt + s.keys.ttl ∨
          out.clock (s.readings + 1) < e.storedAt + s.keys.ttl) := by
  constructor
  · rintro ⟨h⟩
    have hlive := (getting_of_run (Prod.ext h rfl)).of_cache.1
    rw [ht.live?_eq_some_iff, ht.live?_eq_some_iff] at hlive
    rcases hlive with ⟨e, he, hyoung, hheld⟩ | ⟨e, he, hyoung, hheld⟩
    · exact ⟨e, he, hheld, Or.inl hyoung⟩
    · exact ⟨e, he, hheld, Or.inr hyoung⟩
  · rintro ⟨e, he, rfl, hyoung⟩
    have hlive : s.keys.live? source (out.clock s.readings) = some e.held ∨
        s.keys.live? source (out.clock (s.readings + 1)) = some e.held := by
      rw [ht.live?_eq_some_iff, ht.live?_eq_some_iff]
      exact hyoung.imp (fun h => ⟨e, he, h, rfl⟩) fun h => ⟨e, he, h, rfl⟩
    obtain ⟨seen, hseen⟩ := KeyCache.exists_live? hlive
    refine .get ?_
    cases hrun : (getKeys source).run out s with
    | mk r s' =>
      cases getting_of_run hrun with
      | first h => rw [KeyCache.live?_unique h hseen]
      | second _ h => rw [KeyCache.live?_unique h hseen]
      | fetched h₁ h₂ => simp [h₁, h₂] at hlive
      | failed h₁ h₂ => simp [h₁, h₂] at hlive

/-- **A refresh hits an entry that is younger than the time to live**, and younger than the least
interval when the refresh is requested, if it can be told when that is over. -/
theorem hits_refresh_iff (ht : s.keys.Timed) :
    Operation.Hits out s (.refresh source) held ↔
      ∃ e, s.keys.find? source = some e ∧ e.held = held ∧
        e.storedAt.reaches s.keys.minRefresh = true ∧
        out.clock s.readings < e.storedAt + s.keys.minRefresh ∧
        (out.clock (s.readings + 1) < e.storedAt + s.keys.ttl ∨
          out.clock (s.readings + 2) < e.storedAt + s.keys.ttl) := by
  constructor
  · rintro (_ | ⟨h, hrequests⟩)
    cases hrun : (refreshKeys source).run out s with
    | mk r s' =>
      rw [hrun] at h hrequests
      obtain rfl : r = .ok held := h
      cases refreshing_of_run hrun with
      | limited h htold =>
        obtain ⟨e, he, hrecent, hyoung, hheld⟩ := ht.recent?_eq_some_iff.mp h
        rw [KeyCache.intervalTold_of_find? he] at htold
        exact ⟨e, he, hheld, htold, hrecent, Or.inl hyoung⟩
      | waited _ h htold =>
        obtain ⟨e, he, hrecent, hyoung, hheld⟩ := ht.recent?_eq_some_iff.mp h
        rw [KeyCache.intervalTold_of_find? he] at htold
        exact ⟨e, he, hheld, htold, hrecent, Or.inr hyoung⟩
      | fetched _ _ hf =>
        have hasked := hf.requests_eq
        rw [State.advance_requests] at hasked
        rw [hasked] at hrequests
        simp at hrequests
  · rintro ⟨e, he, rfl, htold, hrecent, hyoung⟩
    have hfound : s.keys.recent? source (out.clock s.readings) (out.clock (s.readings + 1)) =
          some e.held ∨
        s.keys.recent? source (out.clock s.readings) (out.clock (s.readings + 2)) =
          some e.held := by
      rw [ht.recent?_eq_some_iff, ht.recent?_eq_some_iff]
      exact hyoung.imp (fun h => ⟨e, he, hrecent, h, rfl⟩) fun h => ⟨e, he, hrecent, h, rfl⟩
    have hheld : ∀ {held : HeldKeys} {now : Instant},
        s.keys.recent? source (out.clock s.readings) now = some held → held = e.held := by
      intro held now h
      obtain ⟨e', he', -, -, rfl⟩ := ht.recent?_eq_some_iff.mp h
      rw [Option.some.inj (he'.symm.trans he)]
    cases hrun : (refreshKeys source).run out s with
    | mk r s' =>
      cases refreshing_of_run hrun with
      | untold hu =>
        rw [KeyCache.intervalTold_of_find? he, htold] at hu
        exact nomatch hu
      | limited h =>
        refine .refresh ?_ ?_
        · rw [hrun, hheld h]
        · rw [hrun]
          simp
      | waited _ h =>
        refine .refresh ?_ ?_
        · rw [hrun, hheld h]
        · rw [hrun]
          simp
      | fetched h₁ h₂ => simp [h₁, h₂] at hfound

end

/-! ## 4. Runs -/

theorem KeyCache.Timed.setUp {c : KeyCache} (ht : c.Timed) (calls : List (Instant × Setting)) :
    (c.setUp calls).Timed := by
  induction calls using List.reverseRecOn with
  | nil => exact ht
  | append_singleton calls call ih =>
    rw [setUp_concat]
    exact ih.configure _ _

/-- Callers who come at the same time keep the entries in step, too. -/
theorem Retrieval.Crowd.timed_after {n : Nat} {c : Crowd n} (ht : c.state.keys.Timed)
    (out : Surroundings) (moves : List (Move n)) : (c.after out moves).state.keys.Timed := by
  induction moves using List.reverseRecOn with
  | nil => exact ht
  | append_singleton moves move ih =>
    rw [after_concat]
    cases moving_next out (c.after out moves) move with
    | still _ hkeys =>
      rcases hkeys with hsame | hempty
      · rw [hsame]
        exact ih
      · exact .of_entries_eq_nil hempty
    | asked _ hkeys =>
      rw [hkeys]
      exact ih
    | stored _ _ hkeys =>
      rw [hkeys]
      exact ih.store _ _ _

/-- **One time to live holds for all entries.**  A cache is set up, by any settings in any order, and
then anything is done with it.

* At all times every entry expires one time to live after it was stored, by the time to live that
  the cache has then.  This is also so while any number of callers use the cache at the same time.
* Hence a call gets the set that is stored exactly as long as that is younger than the time to live,
  and, for a refresh, younger than the least interval when the refresh is requested.
* If what is set besides the time to live is the same and happens at the same moments, and if the
  last time to live is the same, then whatever is done later, the same calls get the set that is
  stored, and it is the same set; so it does not matter when the time to live is set, if only both
  caches can be set up.
* They can be, if each moment at which something is set can be followed by each time to live that
  the cache has in between. -/
theorem one_ttl_for_all_entries (order : KeyCache.Order) :
    (∀ (calls : List (Instant × KeyCache.Setting)) (keys : KeyCache),
      KeyCache.setUp? { order } calls = some keys →
      ∀ (s : State) (out : Surroundings) (ops : List Operation),
      let s' := State.after out { s with keys } ops
      (∀ source e, (source, e) ∈ s'.keys.entries → e.expiresAt = e.storedAt + s'.keys.ttl) ∧
      (∀ (n : Nat) (c : Crowd n) (moves : List (Crowd.Move n)), c.state = s' →
        let cache := (c.after out moves).state.keys
        ∀ source e, (source, e) ∈ cache.entries → e.expiresAt = e.storedAt + cache.ttl) ∧
      ∀ source held,
        (Operation.Hits out s' (.get source) held ↔
          ∃ e, s'.keys.find? source = some e ∧ e.held = held ∧
            (out.clock s'.readings < e.storedAt + s'.keys.ttl ∨
              out.clock (s'.readings + 1) < e.storedAt + s'.keys.ttl)) ∧
        (Operation.Hits out s' (.refresh source) held ↔
          ∃ e, s'.keys.find? source = some e ∧ e.held = held ∧
            e.storedAt.reaches s'.keys.minRefresh = true ∧
            out.clock s'.readings < e.storedAt + s'.keys.minRefresh ∧
            (out.clock (s'.readings + 1) < e.storedAt + s'.keys.ttl ∨
              out.clock (s'.readings + 2) < e.storedAt + s'.keys.ttl))) ∧
    (∀ (calls calls' : List (Instant × KeyCache.Setting)) (keys keys' : KeyCache),
      KeyCache.besidesTtl calls = KeyCache.besidesTtl calls' →
      KeyCache.lastTtl? calls = KeyCache.lastTtl? calls' →
      KeyCache.setUp? { order } calls = some keys → KeyCache.setUp? { order } calls' = some keys' →
      ∀ (s : State) (out : Surroundings) (ops : List Operation) (op : Operation)
        (held : HeldKeys),
        let after (keys : KeyCache) : State := State.after out { s with keys } ops
        Operation.Hits out (after keys) op held ↔ Operation.Hits out (after keys') op held) ∧
    ∀ calls : List (Instant × KeyCache.Setting),
      (∀ call ∈ calls, ∀ d ∈ KeyCache.ttls calls, call.1.reaches d = true) →
      ∃ keys, KeyCache.setUp? { order } calls = some keys := by
  refine ⟨fun calls keys hkeys s out ops => ?_,
    fun calls calls' keys keys' hbesides hlast hkeys hkeys' s out ops op held => ?_,
    fun calls hcalls => ?_⟩
  · have hnew : KeyCache.Timed { order } := .of_entries_eq_nil rfl
    have hkeys : keys.Timed := KeyCache.eq_setUp_of_setUp? hkeys ▸ hnew.setUp calls
    have ht : (State.after out { s with keys } ops).keys.Timed := timed_after_of_timed hkeys ops
    refine ⟨ht, fun n c moves hc => ?_, fun source held => ⟨hits_get_iff ht, hits_refresh_iff ht⟩⟩
    exact Crowd.timed_after (hc ▸ ht) out moves
  · rw [KeyCache.eq_setUp_of_setUp? hkeys, KeyCache.eq_setUp_of_setUp? hkeys',
      KeyCache.setUp_congr hbesides hlast]
  · refine KeyCache.exists_setUp?_eq_some hcalls (fun call hcall d hd => ?_)
      (List.mem_cons_self ..) fun _ hp => nomatch hp
    exact List.mem_cons_of_mem _ (List.mem_filterMap.mpr ⟨call, hcall, hd⟩)

/-- The keys of two tenants are there from the beginning.  One cache is told before that they expire
at once and after that they do not, the other one is told so in between. -/
theorem one_ttl_for_all_entries_two_tenants :
    let place : Url := ⟨"https", some ⟨"", none, some (.domain "my.auth.com"), none⟩,
      .segments ["token_keys"], none, none⟩
    let preload (tenant : String) : KeyCache.Setting := .preloaded ⟨place, some tenant⟩ .empty
    let minute : KeyCache.Setting := .ttl (Duration.ofSeconds 60)
    let calls : List (Instant × KeyCache.Setting) :=
      [(0, .ttl 0), (1, preload "a"), (2, preload "b"), (3, minute)]
    let calls' : List (Instant × KeyCache.Setting) :=
      [(1, preload "a"), (2, minute), (2, preload "b")]
    let out : Surroundings := ⟨fun n => n + 5, 0, fun _ _ => .crash⟩
    ∃ keys keys', KeyCache.setUp? {} calls = some keys ∧ KeyCache.setUp? {} calls' = some keys' ∧
      KeyCache.setUp? {} (calls.take 3) ≠ some keys ∧
      Operation.Hits out { keys := keys } (.get ⟨place, some "a"⟩) ⟨0, .empty⟩ ∧
      Operation.Hits out { keys := keys' } (.get ⟨place, some "a"⟩) ⟨0, .empty⟩ := by
  intro place preload minute calls calls' out
  obtain ⟨hsettled, hsame, hadmitted⟩ := one_ttl_for_all_entries []
  obtain ⟨keys, hkeys⟩ := hadmitted calls (by decide +kernel)
  obtain ⟨keys', hkeys'⟩ := hadmitted calls' (by decide +kernel)
  obtain ⟨-, -, hhits⟩ := hsettled calls keys hkeys {} out []
  have hset : keys = KeyCache.setUp {} calls := KeyCache.eq_setUp_of_setUp? hkeys
  have hhit : Operation.Hits out { keys := keys } (.get ⟨place, some "a"⟩) ⟨0, .empty⟩ := by
    refine ((hhits ⟨place, some "a"⟩ ⟨0, .empty⟩).1).mpr ?_
    rw [hset]
    exact ⟨⟨⟨0, .empty⟩, 1, 1 + Duration.ofSeconds 60⟩, by decide +kernel, rfl,
      Or.inl (by decide +kernel)⟩
  refine ⟨keys, keys', hkeys, hkeys', ?_, hhit, ?_⟩
  · rw [hset]
    decide +kernel
  · exact (hsame calls calls' keys keys' (by decide +kernel) (by decide +kernel) hkeys hkeys' {} out
      [] _ _).mp hhit

/-- **It may matter when the time to live is set.**  A set is preloaded after a time to live without
end was replaced by a minute, and getting hits it.  If it is preloaded before that, at the same
moment, with the same settings besides and the same last time to live, there is no cache. -/
theorem ttl_not_set_after_preloading :
    let source : KeySource := ⟨⟨"https", some ⟨"", none, some (.domain "my.auth.com"), none⟩,
      .segments ["token_keys"], none, none⟩, none⟩
    let endless : KeyCache.Setting := .ttl Duration.longest
    let minute : KeyCache.Setting := .ttl (Duration.ofSeconds 60)
    let calls : List (Instant × KeyCache.Setting) :=
      [(0, endless), (1, minute), (2, .preloaded source .empty)]
    let calls' : List (Instant × KeyCache.Setting) :=
      [(0, endless), (2, .preloaded source .empty), (3, minute)]
    let out : Surroundings := ⟨fun n => n + 5, 0, fun _ _ => .crash⟩
    KeyCache.besidesTtl calls = KeyCache.besidesTtl calls' ∧
      KeyCache.lastTtl? calls = KeyCache.lastTtl? calls' ∧
      (∃ keys, KeyCache.setUp? {} calls = some keys ∧
        Operation.Hits out { keys := keys } (.get source) ⟨0, .empty⟩) ∧
      KeyCache.setUp? {} calls' = none := by
  intro source endless minute calls calls' out
  refine ⟨by decide +kernel, by decide +kernel, ⟨KeyCache.setUp {} calls, ?_, .get ?_⟩, ?_⟩
  all_goals decide +kernel

end TokenTrust

/-
# Where served keys come from

A set of keys that is served for a source was fetched from that source while it was asked for, or it
was stored, for exactly that source, less than the time to live ago.
This holds along every run, whatever is preloaded, set up, cleared or fetched in between, and
there is no way around it: a set that has reached its time to live is not served when
fetching it again fails.

The proof follows the entries.  An operation that retrieves leaves the entries that there are alone,
or replaces one by a set that it fetched (`Stocked`), so along a run each entry leads back to the
one operation that stored it (`Deposit`).  That it expires when it has to (`KeyCache.Timed`) is
kept by every operation, also by those that change the time to live.
-/
import TokenTrust.Proofs.Operation

namespace TokenTrust

open TokenTrust.Action TokenTrust.Retrieval

variable {out : Surroundings} {s s' s₀ : State} {source : KeySource}

/-! ## 1. Serving -/

namespace Retrieval

/-- **A set is served**: it is stored and may be used at that moment, or it is fetched. -/
inductive Serving (out : Surroundings) (source : KeySource) (s : State) : HeldKeys → State → Prop
  | stored {held : HeldKeys} (h : s.keys.live? source (out.clock s.readings) = some held) :
    Serving out source s held (s.advance 1)
  | fetched {held : HeldKeys} {s' : State} (h : Fetching out source s (.ok held) s') :
    Serving out source s held s'

namespace Kept

variable {R : State → State → Prop}

/-- Getting ends by serving. -/
theorem serving_of_getting (k : Kept out (fun _ => True) R) {held : HeldKeys} {origin : Origin}
    (h : Getting out source s (.ok (held, origin)) s') :
    ∃ s₁, R s s₁ ∧ Serving out source s₁ held s' := by
  cases h with
  | first h => exact ⟨s, k.refl s, .stored h⟩
  | second _ h => exact ⟨s.advance 1, k.advance s 1, .stored h⟩
  | fetched _ _ hf => exact ⟨s.advance 2, k.advance s 2, .fetched hf⟩

/-- A refresh serves, and perhaps logs a line. -/
theorem serving_of_refreshing (k : Kept out (fun _ => True) R) {held : HeldKeys}
    (h : Refreshing out source s (.ok held) s') :
    ∃ s₁ s₂, R s s₁ ∧ Serving out source s₁ held s₂ ∧ R s₂ s' := by
  cases h with
  | limited h =>
    exact ⟨s.advance 1, s.advance 2, k.advance s 1, .stored (KeyCache.live?_of_recent? h),
      k.logging _ _⟩
  | waited _ h =>
    exact ⟨s.advance 2, s.advance 3, k.advance s 2, .stored (KeyCache.live?_of_recent? h), k.refl _⟩
  | fetched _ _ hf => exact ⟨s.advance 3, s', k.advance s 3, .fetched hf, k.refl s'⟩

end Kept
end Retrieval

/-- **The sets that an operation serves**: those that getting and refreshing return, also where it
is a check that gets and refreshes. -/
inductive Operation.Serves (out : Surroundings) (s : State) :
    Operation → KeySource → KeySet → Prop
  | get {source : KeySource} {held : HeldKeys} {origin : Origin}
    (hg : ((getKeys source).run out s).1 = .ok (held, origin)) :
    Serves out s (.get source) source held.keys
  | refresh {source : KeySource} {held : HeldKeys}
    (hr : ((refreshKeys source).run out s).1 = .ok held) :
    Serves out s (.refresh source) source held.keys
  /-- The set that a check looks at first. -/
  | consulted {c : SignatureCheck} {t : Token} {alg : Algorithm} {source : KeySource}
    {held : HeldKeys} {origin : Origin} {s₁ : State} (hp : SignatureCheck.precheck t = .ok alg)
    (hs : (c.source t).run out s = (.ok source, s₁))
    (hg : ((getKeys source).run out s₁).1 = .ok (held, origin)) :
    Serves out s (.validate c t) source held.keys
  /-- The set that a check gets in exchange for one that does not hold the key. -/
  | exchanged {c : SignatureCheck} {t : Token} {alg : Algorithm} {source : KeySource}
    {held refreshed : HeldKeys} {e : Error} {i : String} {s₁ s₂ : State}
    (hp : SignatureCheck.precheck t = .ok alg) (hs : (c.source t).run out s = (.ok source, s₁))
    (hg : (getKeys source).run out s₁ = (.ok (held, .cache), s₂))
    (hm : held.keys.select alg t.keyId? = .error e) (hi : t.keyId? = some i)
    (hr : ((refreshKeys source).run out
      (s₂.logging [SignatureCheck.unknownLine source i])).1 = .ok refreshed) :
    Serves out s (.validate c t) source refreshed.keys

namespace SignatureCheck

variable {c : SignatureCheck} {t : Token} {alg : Algorithm} {s₁ s₂ : State}

/-- What comes after the first set was got. -/
theorem Finding.rest {R : State → State → Prop} {id : Option String} {held : HeldKeys}
    {origin : Origin} {r : Except Failure KeySet} (k : Kept out (fun _ => True) R)
    (hg : (getKeys source).run out s = (.ok (held, origin), s₁))
    (h : Finding out source alg id s r s') : R s₁ s' := by
  cases h with
  | ungot hg' => rw [hg] at hg'; exact nomatch hg'
  | found hg' =>
    rw [hg] at hg'
    cases hg'
    exact k.refl _
  | missing hg' =>
    rw [hg] at hg'
    cases hg'
    exact k.refl _
  | refreshed hg' _ _ hr =>
    rw [hg] at hg'
    cases hg'
    exact k.trans (k.logging _ _) (k.refreshing trivial (refreshing_of_run hr))

/-- An exchange is the last thing that happens. -/
theorem Finding.eq_of_exchange {held : HeldKeys} {e : Error} {i : String}
    {r : Except Failure KeySet} (hg : (getKeys source).run out s = (.ok (held, .cache), s₁))
    (hm : held.keys.select alg (some i) = .error e)
    (h : Finding out source alg (some i) s r s') :
    s' = ((refreshKeys source).run out (s₁.logging [unknownLine source i])).2 := by
  cases h with
  | ungot hg' => rw [hg] at hg'; exact nomatch hg'
  | found hg' hk =>
    rw [hg] at hg'
    cases hg'
    rw [hm] at hk
    exact nomatch hk
  | missing hg' _ ho =>
    rw [hg] at hg'
    cases hg'
    rcases ho with ho | ho
    · exact nomatch ho
    · exact nomatch ho
  | refreshed hg' _ hi hr =>
    rw [hg] at hg'
    cases hg'
    cases hi
    rw [hr]

/-- Once the keys are looked for, the check has nothing else to do. -/
theorem run_check_snd (hp : precheck t = .ok alg)
    (hs : (c.source t).run out s = (.ok source, s₁)) :
    ((c.check t).run out s).2 = ((keysFor source alg t.keyId?).run out s₁).2 := by
  rw [run_check hp hs]
  cases (keysFor source alg t.keyId?).run out s₁ with
  | mk q s' => cases q <;> rfl

end SignatureCheck

namespace Operation

variable {R : State → State → Prop} {op : Operation} {keys : KeySet}

/-- **What an operation serves is served on its way.** -/
theorem Serves.serving (k : Kept out (fun _ => True) R) (h : Serves out s op source keys) :
    ∃ held s₁ s₂, held.keys = keys ∧ R s s₁ ∧ Serving out source s₁ held s₂ ∧
      R s₂ (s.next out op) := by
  cases h with
  | @get _ held origin hg =>
    obtain ⟨s₁, h₁, hserve⟩ := k.serving_of_getting (getting_of_run (Prod.ext hg rfl))
    exact ⟨held, s₁, _, rfl, h₁, hserve, k.refl _⟩
  | @refresh _ held hr =>
    obtain ⟨s₁, s₂, h₁, hserve, h₂⟩ := k.serving_of_refreshing (refreshing_of_run (Prod.ext hr rfl))
    exact ⟨held, s₁, s₂, rfl, h₁, hserve, h₂⟩
  | @consulted c t alg _ held origin s₀ hp hs hg =>
    have h₀ : R s s₀ := SignatureCheck.kept_sourcing k (fun _ => trivial)
      (SignatureCheck.sourcing_of_run hs)
    cases hrun : (getKeys source).run out s₀ with
    | mk r s₂ =>
      rw [hrun] at hg
      cases hg
      obtain ⟨s₁, h₁, hserve⟩ := k.serving_of_getting (getting_of_run hrun)
      refine ⟨held, s₁, s₂, rfl, k.trans h₀ h₁, hserve, ?_⟩
      rw [State.next_validate, SignatureCheck.run_check_snd hp hs]
      exact (SignatureCheck.finding_run out source alg t.keyId? s₀).rest k hrun
  | @exchanged c t alg _ held refreshed e i s₀ s₂ hp hs hg hm hi hr =>
    have h₀ : R s s₀ := SignatureCheck.kept_sourcing k (fun _ => trivial)
      (SignatureCheck.sourcing_of_run hs)
    have h₂ : R s₀ s₂ := k.getting trivial (getting_of_run hg)
    obtain ⟨s₁, s₃, h₁, hserve, h₃⟩ :=
      k.serving_of_refreshing (refreshing_of_run (Prod.ext hr rfl))
    refine ⟨refreshed, s₁, s₃, rfl, ?_, hserve, ?_⟩
    · exact k.trans h₀ (k.trans h₂ (k.trans (k.logging _ _) h₁))
    · have hfind := SignatureCheck.finding_run out source alg t.keyId? s₀
      rw [hi] at hm hfind
      rw [State.next_validate, SignatureCheck.run_check_snd hp hs, hi,
        hfind.eq_of_exchange hg hm]
      exact h₃

end Operation

/-! ## 2. What comes into the cache -/

/-- An entry that was stored between two states: its set was fetched in that time, it says when it
was stored, and it expires when the time to live is over. -/
structure NewEntry (out : Surroundings) (s s' : State) (source : KeySource) (e : KeyCache.Entry) :
    Prop where
  fetched : Fetched out s s' source e.held.keys
  moment : ∃ i, s.readings ≤ i ∧ i < s'.readings ∧ out.clock i = e.storedAt
  expiry : e.expiresAt = e.storedAt + s'.keys.ttl

/-- **How retrievals change the cache**: an entry was there before, or it is new. -/
structure Stocked (out : Surroundings) (s s' : State) : Prop where
  precedes : s.Precedes s'
  ttl : s'.keys.ttl = s.keys.ttl
  entries : ∀ source e, (source, e) ∈ s'.keys.entries →
    (source, e) ∈ s.keys.entries ∨ NewEntry out s s' source e

theorem NewEntry.mono {s₁ s₂ : State} {e : KeyCache.Entry} (h : NewEntry out s₁ s₂ source e)
    (h₁ : s.Precedes s₁) (h₂ : s₂.Precedes s') (ht : s'.keys.ttl = s₂.keys.ttl) :
    NewEntry out s s' source e := by
  obtain ⟨i, hi, hi', hm⟩ := h.moment
  refine ⟨h.fetched.mono h₁ h₂, ⟨i, ?_, ?_, hm⟩, ht ▸ h.expiry⟩
  · exact Nat.le_trans h₁.readings hi
  · exact Nat.lt_of_lt_of_le hi' h₂.readings

theorem Stocked.trans {s s₁ s₂ : State} (h : Stocked out s s₁) (h' : Stocked out s₁ s₂) :
    Stocked out s s₂ := by
  refine ⟨h.precedes.trans h'.precedes, h'.ttl.trans h.ttl, fun source e he => ?_⟩
  rcases h'.entries source e he with hmid | hnew
  · rcases h.entries source e hmid with hold | hnew
    · exact Or.inl hold
    · exact Or.inr (hnew.mono (State.Precedes.refl s) h'.precedes h'.ttl)
  · exact Or.inr (hnew.mono h.precedes (State.Precedes.refl s₂) rfl)

/-- Where the cache is left alone, nothing is new. -/
theorem Stocked.of_keys_eq (h : s.Precedes s') (hk : s'.keys = s.keys) : Stocked out s s' :=
  ⟨h, by rw [hk], fun source e he => Or.inl (hk ▸ he)⟩

theorem Stocked.of_fetching {r : Except Failure HeldKeys} (h : Fetching out source s r s') :
    Stocked out s s' := by
  have hp : s.Precedes s' := (kept_precedes out).fetching trivial h
  cases r with
  | error f => exact .of_keys_eq hp h.keys_eq_of_error
  | ok held =>
    have hf := h.fetched
    cases h with
    | stored =>
      refine ⟨hp, rfl, fun source' e he => ?_⟩
      rcases KeyCache.mem_store he with ⟨hold, -⟩ | hnew
      · exact Or.inl hold
      · obtain ⟨rfl, rfl⟩ := Prod.mk.inj hnew
        exact Or.inr ⟨hf, ⟨s.readings, Nat.le_refl _, Nat.lt_succ_self _, rfl⟩, rfl⟩

/-- **Retrievals only add entries that they have fetched.** -/
theorem kept_stocked (out : Surroundings) : Kept out (fun _ => True) (Stocked out) where
  trans := Stocked.trans
  advance s n := .of_keys_eq ((kept_precedes out).advance s n) rfl
  logging s lines := .of_keys_eq ((kept_precedes out).logging s lines) rfl
  fetching _ h := .of_fetching h
  discovering _ h := by
    have hp := (kept_precedes out).discovering trivial h
    cases h <;> exact .of_keys_eq hp rfl

/-! ## 3. What was in the cache before -/

/-- **An operation deposits a set**: it fetches it or it is told to preload it, and it leaves it in
the cache, stored at a moment at which it read the clock. -/
structure Deposit (out : Surroundings) (s : State) (op : Operation) (source : KeySource)
    (held : HeldKeys) (moment : Instant) : Prop where
  origin : Fetched out s (s.next out op) source held.keys ∨
    op = .configure (.preloaded source held.keys)
  timely : ∃ i, s.readings ≤ i ∧ i < (s.next out op).readings ∧ out.clock i = moment
  left : ∃ e, (source, e) ∈ (s.next out op).keys.entries ∧ e.held = held ∧ e.storedAt = moment

theorem Stocked.timed (h : Stocked out s s') (ht : s.keys.Timed) : s'.keys.Timed := by
  intro source e he
  rcases h.entries source e he with hold | hnew
  · rw [ht source e hold, h.ttl]
  · exact hnew.expiry

/-- **An operation leaves no entry that may be used for too long.** -/
theorem timed_next (ht : s.keys.Timed) (op : Operation) : (s.next out op).keys.Timed := by
  cases op with
  | configure x => exact ht.configure _ x
  | configureDiscovery => exact ht
  | clear => exact .of_entries_eq_nil rfl
  | _ => exact ((kept_stocked out).next s rfl).timed ht

/-- An entry was deposited by the operation, or it was there before, perhaps with another time to
live. -/
theorem deposit_or_mem_of_mem_next {op : Operation} {e : KeyCache.Entry}
    (he : (source, e) ∈ (s.next out op).keys.entries) :
    Deposit out s op source e.held e.storedAt ∨
      ∃ e₀, (source, e₀) ∈ s.keys.entries ∧ e₀.held = e.held ∧ e₀.storedAt = e.storedAt := by
  have retrieved (h : op.retrieves = true) :
      Deposit out s op source e.held e.storedAt ∨
        ∃ e₀, (source, e₀) ∈ s.keys.entries ∧ e₀.held = e.held ∧ e₀.storedAt = e.storedAt := by
    rcases ((kept_stocked out).next s h).entries source e he with hold | hnew
    · exact Or.inr ⟨e, hold, rfl, rfl⟩
    · exact Or.inl ⟨Or.inl hnew.fetched, hnew.moment, e, he, rfl, rfl⟩
  cases op with
  | configure x =>
    rcases KeyCache.mem_configure he with hold | ⟨rfl, hnow⟩
    · exact Or.inr hold
    · exact Or.inl ⟨Or.inr rfl, ⟨s.readings, Nat.le_refl _, Nat.lt_succ_self _, hnow⟩, e, he,
        rfl, rfl⟩
  | configureDiscovery => exact Or.inr ⟨e, he, rfl, rfl⟩
  | clear => exact nomatch he
  | _ => exact retrieved rfl

/-! ## 4. Runs -/

/-- Neither does a run. -/
theorem timed_after_of_timed (ht : s₀.keys.Timed) (ops : List Operation) :
    (s₀.after out ops).keys.Timed := by
  induction ops using List.reverseRecOn with
  | nil => exact ht
  | append_singleton ops op ih =>
    rw [State.after_concat]
    exact timed_next ih op

/-- In a run that starts without entries, the time to live counts from when an entry was stored. -/
theorem timed_after (h₀ : s₀.keys.entries = []) (ops : List Operation) :
    (s₀.after out ops).keys.Timed :=
  timed_after_of_timed (.of_entries_eq_nil h₀) ops

/-- **Every entry leads back to an operation that deposited it.** -/
theorem exists_deposit_of_mem (h₀ : s₀.keys.entries = []) (ops : List Operation)
    {e : KeyCache.Entry} (he : (source, e) ∈ (s₀.after out ops).keys.entries) :
    ∃ before op rest, ops = before ++ op :: rest ∧
      Deposit out (s₀.after out before) op source e.held e.storedAt := by
  induction ops using List.reverseRecOn generalizing e with
  | nil => exact absurd (h₀ ▸ he) List.not_mem_nil
  | append_singleton ops op ih =>
    rw [State.after_concat] at he
    rcases deposit_or_mem_of_mem_next he with hd | ⟨e₀, he₀, hheld, hat⟩
    · exact ⟨ops, op, [], rfl, hd⟩
    · obtain ⟨before, op', rest, rfl, hd⟩ := ih he₀
      rw [hheld, hat] at hd
      exact ⟨before, op', rest ++ [op], by simp, hd⟩

/-- What an operation serves was fetched by it, or it is the entry that the source had before, and a
reading of the clock by the operation shows that it has not expired. -/
theorem fetched_or_found_of_serves {op : Operation} {keys : KeySet}
    (h : op.Serves out s source keys) :
    Fetched out s (s.next out op) source keys ∨
      ∃ e i, s.keys.find? source = some e ∧ e.held.keys = keys ∧ s.readings ≤ i ∧
        i < (s.next out op).readings ∧ out.clock i < e.expiresAt := by
  obtain ⟨held, s₁, s₂, rfl, h₁, hserve, h₂⟩ := h.serving (kept_stocked out)
  cases hserve with
  | fetched hf => exact Or.inl (hf.fetched.mono h₁.precedes h₂.precedes)
  | stored hl =>
    obtain ⟨e, he, hlt, rfl⟩ := KeyCache.live?_eq_some_iff.mp hl
    rcases h₁.entries source e (KeyCache.mem_of_find? he) with hold | hnew
    · refine Or.inr ⟨e, s₁.readings, KeyCache.find?_eq_some_iff.mpr hold, rfl,
        h₁.precedes.readings, ?_, hlt⟩
      exact Nat.lt_of_lt_of_le (Nat.lt_succ_self _) h₂.precedes.readings
    · have hstep : s₁.Precedes (s₁.advance 1) := (kept_precedes out).advance s₁ 1
      exact Or.inl (hnew.fetched.mono (State.Precedes.refl s) (hstep.trans h₂.precedes))

/-- **A stored set that may be served** by an operation after a run.  It is in the entry of the
source, which an operation of the run deposited, and a reading of the clock by the operation shows
that this is less than the time to live ago. -/
structure Young (out : Surroundings) (s₀ : State) (ops : List Operation) (op : Operation)
    (source : KeySource) (e : KeyCache.Entry) (i : Nat) : Prop where
  found : (s₀.after out ops).keys.find? source = some e
  deposited : ∃ before op' rest, ops = before ++ op' :: rest ∧
    Deposit out (s₀.after out before) op' source e.held e.storedAt
  looked : (s₀.after out ops).readings ≤ i ∧ i < ((s₀.after out ops).next out op).readings
  since : e.storedAt ≤ out.clock i
  young : out.clock i < e.storedAt + (s₀.after out ops).keys.ttl

/-- **What is served was fetched for it or is young.**  In a run that starts without entries, and
with a clock that does not go back, a set that is served for a source was fetched from exactly that
source by the operation that serves it, or it was stored for exactly that source less than the
time to live before it was looked up.  If the entry of the source has reached its time to live
when the operation begins, or there is none, then only a set that the operation fetches is served,
and if it fetches none, nothing is. -/
theorem served_fetched_or_young (hclock : ∀ i j, i ≤ j → out.clock i ≤ out.clock j)
    (h₀ : s₀.keys.entries = []) (ops : List Operation) {op : Operation} {keys : KeySet}
    (h : op.Serves out (s₀.after out ops) source keys) :
    (Fetched out (s₀.after out ops) ((s₀.after out ops).next out op) source keys ∨
      ∃ e i, e.held.keys = keys ∧ Young out s₀ ops op source e i) ∧
    ((∀ e, (s₀.after out ops).keys.find? source = some e →
        e.storedAt + (s₀.after out ops).keys.ttl ≤ out.clock (s₀.after out ops).readings) →
      Fetched out (s₀.after out ops) ((s₀.after out ops).next out op) source keys) := by
  rcases fetched_or_found_of_serves h with hf | ⟨e, i, hfind, rfl, hle, hlt, hlive⟩
  · exact ⟨Or.inl hf, fun _ => hf⟩
  · have hmem : (source, e) ∈ (s₀.after out ops).keys.entries := KeyCache.mem_of_find? hfind
    have hyoung : out.clock i < e.storedAt + (s₀.after out ops).keys.ttl := by
      rw [← timed_after h₀ ops source e hmem]
      exact hlive
    obtain ⟨before, op', rest, rfl, hd⟩ := exists_deposit_of_mem h₀ ops hmem
    have hsince : e.storedAt ≤ out.clock i := by
      obtain ⟨j, -, hj, hat⟩ := hd.timely
      have hafter := (State.precedes_after_of_split out s₀ before rest op').readings
      rw [← hat]
      exact hclock j i (by omega)
    refine ⟨Or.inr ⟨e, i, rfl, hfind, ⟨before, op', rest, rfl, hd⟩, ⟨hle, hlt⟩, hsince, hyoung⟩, ?_⟩
    -- an entry that has expired at the first reading has expired at all that follow
    intro hexpired
    have hlast := Nat.le_trans (hexpired e hfind) (hclock _ i hle)
    exact absurd hyoung (Nat.not_lt.mpr hlast)

/-- A preloaded set is served to the tenant that it was preloaded for, by a clock that goes on
with every reading and without a network. -/
theorem served_fetched_or_young_preloaded :
    let source : KeySource := ⟨⟨"https", some ⟨"", none, some (.domain "my.auth.com"), none⟩,
      .segments ["token_keys"], none, none⟩, some "tenant"⟩
    let out : Surroundings := ⟨fun n => n, 0, fun _ _ => .crash⟩
    let ops : List Operation := [.configure (.preloaded source .empty), .configure (.ttl 7)]
    Operation.Serves out (State.after out {} ops) (.get source) source .empty ∧
      (Fetched out (State.after out {} ops) (State.next out (State.after out {} ops) (.get source))
          source .empty ∨
        ∃ e i, e.held.keys = .empty ∧ Young out {} ops (.get source) source e i) := by
  intro source out ops
  have hclock : ∀ i j, i ≤ j → out.clock i ≤ out.clock j := fun _ _ h => h
  have hserves : Operation.Serves out (State.after out {} ops) (.get source) source .empty :=
    @Operation.Serves.get out _ source ⟨0, .empty⟩ .cache (by decide +kernel)
  exact ⟨hserves, (served_fetched_or_young hclock rfl ops hserves).1⟩

end TokenTrust

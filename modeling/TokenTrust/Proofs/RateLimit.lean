/-
# How often keys are refreshed

A refresh that has stored what it fetched is the last one for a while: until the least interval is
over, counted from the moment at which it stored the keys, no other refresh of that source makes a
request, whether it is asked for or a check makes it because a key is unknown.  It returns the
entry that is there, if the end of the interval is a moment that can be told.

The interval is measured by the entry and by nothing else, so only what was stored begins one.  A
refresh that was answered with a failure, or with something that is no key set, leaves the entry as
old as it was, and the next refresh makes a request again.

The proof follows the age of the entry.  Whatever is done after the refresh, an entry of its source
was stored then or later (`StoredSince`), because what is stored is stored at the present
moment and the clock does not go back.
-/
import TokenTrust.Proofs.Provenance

namespace TokenTrust

open TokenTrust.Action TokenTrust.Retrieval

variable {out : Surroundings} {s s' b b' : State} {source : KeySource} {op : Operation}

/-! ## 1. Refreshes and where they begin -/

/-- **An operation refreshes the keys of a source**, from some state on: it is asked to, or it is
a check that finds a set in the cache without the key that the token names. -/
inductive Operation.Refreshes (out : Surroundings) (s : State) :
    Operation → KeySource → State → Prop
  | asked {source : KeySource} : Refreshes out s (.refresh source) source s
  | unknownKey {c : SignatureCheck} {t : Token} {alg : Algorithm} {source : KeySource}
    {held : HeldKeys} {e : Error} {i : String} {s₁ s₂ : State}
    (hp : SignatureCheck.precheck t = .ok alg) (hs : (c.source t).run out s = (.ok source, s₁))
    (hg : (getKeys source).run out s₁ = (.ok (held, .cache), s₂))
    (hm : held.keys.select alg t.keyId? = .error e) (hi : t.keyId? = some i) :
    Refreshes out s (.validate c t) source (s₂.logging [SignatureCheck.unknownLine source i])

namespace Operation.Refreshes

/-- What comes before the refresh are retrievals. -/
theorem kept {R : State → State → Prop} (k : Kept out (fun _ => True) R)
    (h : op.Refreshes out s source b) : R s b := by
  cases h with
  | asked => exact k.refl s
  | @unknownKey c t alg _ held e i s₁ s₂ hp hs hg hm hi =>
    have hsourcing : R s s₁ := SignatureCheck.kept_sourcing k (fun _ => trivial)
      (SignatureCheck.sourcing_of_run hs)
    have hgetting : R s₁ s₂ := k.getting trivial (getting_of_run hg)
    exact k.trans hsourcing (k.trans hgetting (k.logging _ _))

/-- The refresh is the last thing that the operation does. -/
theorem next_eq (h : op.Refreshes out s source b) :
    s.next out op = ((refreshKeys source).run out b).2 := by
  cases h with
  | asked => rfl
  | @unknownKey c t alg _ held e i s₁ s₂ hp hs hg hm hi =>
    have hfinding := SignatureCheck.finding_run out source alg t.keyId? s₁
    rw [hi] at hm hfinding
    rw [State.next_validate, SignatureCheck.run_check_snd hp hs, hi]
    exact hfinding.eq_of_exchange hg hm

end Operation.Refreshes

/-! ## 2. What a refresh stores -/

/-- The moment at which a refresh stores what it has fetched.  Before that it reads the clock three
times: when it is requested, and for each of the two looks at the cache. -/
def Retrieval.storingMoment (out : Surroundings) (b : State) : Instant :=
  out.clock (b.readings + 3)

/-- **The entries of a source are not older** than some moment, and no entry will be: the clock
has passed that moment. -/
structure StoredSince (out : Surroundings) (source : KeySource) (moment : Instant) (s : State) :
    Prop where
  passed : ∀ i, s.readings ≤ i → moment ≤ out.clock i
  entries : ∀ e, (source, e) ∈ s.keys.entries → moment ≤ e.storedAt

/-- A refresh that made a request and has a result leaves no entry of its source but the one that
it has stored. -/
theorem storedSince_of_refreshing {held : HeldKeys}
    (hclock : ∀ i j, i ≤ j → out.clock i ≤ out.clock j)
    (h : Refreshing out source b (.ok held) b') (hrequest : b'.requests ≠ b.requests) :
    StoredSince out source (storingMoment out b) b' := by
  cases h with
  | limited => exact absurd (by simp) hrequest
  | waited => exact absurd (by simp) hrequest
  | fetched _ _ hf =>
    cases hf with
    | stored =>
      refine ⟨fun i hi => hclock _ i (Nat.le_trans (Nat.le_succ _) hi), fun e he => ?_⟩
      rcases KeyCache.mem_store he with ⟨-, hne⟩ | hnew
      · exact absurd rfl hne
      · obtain ⟨-, rfl⟩ := Prod.mk.inj hnew
        exact Nat.le_refl _

namespace StoredSince

variable {moment : Instant}

/-- Retrievals store at moments that the clock has yet to show. -/
theorem stocked (h : StoredSince out source moment s) (hs : Stocked out s s') :
    StoredSince out source moment s' := by
  refine ⟨fun i hi => h.passed i (Nat.le_trans hs.precedes.readings hi), fun e he => ?_⟩
  rcases hs.entries source e he with hold | hnew
  · exact h.entries e hold
  · obtain ⟨i, hi, -, hat⟩ := hnew.moment
    exact hat ▸ h.passed i hi

/-- **No operation makes an entry older**, not even one that sets the caches up. -/
theorem next (h : StoredSince out source moment s) (op : Operation) :
    StoredSince out source moment (s.next out op) := by
  refine ⟨fun i hi => ?_, fun e he => ?_⟩
  · exact h.passed i (Nat.le_trans (State.precedes_next out s op).readings hi)
  · rcases deposit_or_mem_of_mem_next he with hnew | ⟨e₀, he₀, -, hat⟩
    · obtain ⟨i, hi, -, hat⟩ := hnew.timely
      exact hat ▸ h.passed i hi
    · exact hat ▸ h.entries e₀ he₀

theorem after (h : StoredSince out source moment s) (ops : List Operation) :
    StoredSince out source moment (s.after out ops) := by
  induction ops using List.reverseRecOn with
  | nil => exact h
  | append_singleton ops op ih =>
    rw [State.after_concat]
    exact ih.next op

end StoredSince

/-! ## 3. The next refresh -/

/-- A refresh that finds a set too young to be fetched again makes no request, and returns it if it
can be told that the set is. -/
theorem Retrieval.Refreshing.limited_of_recent {held : HeldKeys} {r : Except Failure HeldKeys}
    (h : Refreshing out source b r b')
    (hrecent : b.keys.recent? source (out.clock b.readings) (out.clock (b.readings + 1)) =
      some held) :
    b'.requests = b.requests ∧ (b.keys.intervalTold source = true → r = .ok held) := by
  cases h with
  | untold hu => exact ⟨by simp, fun ht => nomatch hu.symm.trans ht⟩
  | limited hfound =>
    rw [hrecent] at hfound
    cases hfound
    exact ⟨by simp, fun _ => rfl⟩
  | waited hnone => rw [hrecent] at hnone; exact nomatch hnone
  | fetched hnone => rw [hrecent] at hnone; exact nomatch hnone

/-- **Refreshes keep apart.**  The clock does not go back.  A refresh of some source made a request
and has a result, and after any other operations there is another refresh of that source, requested
before the least interval was over since the first one stored its result.  If the source has an
entry that may be used when the second refresh looks for it, then that refresh makes no request, and
it returns this entry if it can be told until when the entry is recent. -/
theorem no_request_within_interval {op op' : Operation}
    (hclock : ∀ i j, i ≤ j → out.clock i ≤ out.clock j) (h : op.Refreshes out s source b)
    (hresult : ∃ held, ((refreshKeys source).run out b).1 = .ok held)
    (hrequest : ((refreshKeys source).run out b).2.requests ≠ b.requests)
    (ops : List Operation) (h' : op'.Refreshes out ((s.next out op).after out ops) source b')
    (hsoon : out.clock b'.readings < storingMoment out b + b'.keys.minRefresh)
    {e : KeyCache.Entry} (he : b'.keys.find? source = some e)
    (hlive : out.clock (b'.readings + 1) < e.expiresAt) :
    ((refreshKeys source).run out b').2.requests = b'.requests ∧
      (e.storedAt.reaches b'.keys.minRefresh = true →
        ((refreshKeys source).run out b').1 = .ok e.held) := by
  obtain ⟨held, hheld⟩ := hresult
  have hfirst : StoredSince out source (storingMoment out b) (s.next out op) := by
    rw [h.next_eq]
    exact storedSince_of_refreshing hclock (refreshing_of_run (Prod.ext hheld rfl)) hrequest
  have hthen : StoredSince out source (storingMoment out b) b' :=
    (hfirst.after ops).stocked (h'.kept (kept_stocked out))
  have hage : storingMoment out b ≤ e.storedAt := hthen.entries e (KeyCache.mem_of_find? he)
  have hrecent : b'.keys.recent? source (out.clock b'.readings) (out.clock (b'.readings + 1)) =
      some e.held := by
    refine KeyCache.recent?_eq_some_iff.mpr ⟨e, he, ?_, hlive, rfl⟩
    exact Nat.lt_of_lt_of_le hsoon (Nat.add_le_add_right hage _)
  rw [← KeyCache.intervalTold_of_find? he]
  exact (refreshing_of_run rfl).limited_of_recent hrecent

/-- An empty set was fetched by a refresh, and no time has passed when a token comes that names a
key. -/
theorem no_request_within_interval_unknown_key :
    let place : Url := ⟨"https", some ⟨"", none, some (.domain "my.auth.com"), none⟩,
      .segments ["token_keys"], none, none⟩
    let source : KeySource := ⟨place, none⟩
    let c : SignatureCheck := ⟨.xsuaa, place, place, []⟩
    let t : Token :=
      ⟨"a.b.AAE", 3, [("alg", .string "ES256"), ("kid", .string "k")], [], [0, 1]⟩
    let out : Surroundings :=
      ⟨fun _ => 0, 0, fun _ _ => .body (Text.Utf8.bytes "\x7b\x22keys\x22:[]\x7d")⟩
    let s : State := State.next out {} (.refresh source)
    ∃ b' e, Operation.Refreshes out s (.validate c t) source b' ∧
      b'.keys.find? source = some e ∧
      ((refreshKeys source).run out b').2.requests = b'.requests ∧
      ((refreshKeys source).run out b').1 = .ok e.held := by
  intro place source c t out s
  have h' : Operation.Refreshes out s (.validate c t) source
      ((s.advance 1).logging [SignatureCheck.unknownLine source "k"]) := by
    have hp : SignatureCheck.precheck t = .ok .es256 := by decide +kernel
    have hg : (getKeys source).run out s = (.ok (⟨0, .empty⟩, .cache), s.advance 1) := by
      decide +kernel
    exact .unknownKey hp rfl hg rfl rfl
  have he : ((s.advance 1).logging [SignatureCheck.unknownLine source "k"]).keys.find? source =
      some ⟨⟨0, .empty⟩, 0, Duration.ofSeconds 600⟩ := by decide +kernel
  have hlimited := no_request_within_interval (fun _ _ _ => Nat.le_refl 0) .asked
    ⟨⟨0, .empty⟩, by decide +kernel⟩ (by decide +kernel) [] h' (by decide +kernel) he
    (by decide +kernel)
  exact ⟨_, _, h', he, hlimited.1, hlimited.2 (by decide +kernel)⟩

/-- **A failure begins no interval.**  Keys were stored two seconds ago, and may be used for a long
time yet, when a refresh makes a request and is answered with a failure.  The keys are still there
as they were and no time has passed, but the next refresh makes a request again. -/
theorem refresh_again_after_failure :
    let place : Url := ⟨"https", some ⟨"", none, some (.domain "my.auth.com"), none⟩,
      .segments ["token_keys"], none, none⟩
    let source : KeySource := ⟨place, none⟩
    let out : Surroundings :=
      ⟨fun n => if n = 0 then 0 else Duration.ofSeconds 2, 0, fun _ _ => .failure (.crypto "")⟩
    let s : State := State.next out {} (.configure (.preloaded source .empty))
    let failed : State := s.next out (.refresh source)
    let again : State := failed.next out (.refresh source)
    s.requests = [] ∧ failed.requests = [source] ∧ again.requests = [source, source] ∧
      failed.keys = s.keys ∧ again.keys = s.keys ∧
      s.keys.live? source (out.clock again.readings) = some ⟨0, .empty⟩ ∧
      out.clock failed.readings < out.clock s.readings + s.keys.minRefresh := by
  decide +kernel

end TokenTrust

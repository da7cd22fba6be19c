/-
# What a retrieval can do

Each retrieval ends in one of a few ways, and each way has one state that it ends in.  The relations
of this file list the ways (`Fetching`, `Getting`, `Refreshing`, `Discovering`), and there is one
theorem for each that says that a run takes one of them.  They say everything that a retrieval
does, so what holds of retrievals is proved from them, by cases.  What has to be shown of a
relation between states, so that it holds of every retrieval from beginning to end, is a
structure of its own (`Kept`).

What an answer amounts to is a function of the answer alone (`keysIn`, `discoveryIn`): only the
outcome of a retrieval depends on the caches and the clock.
-/
import TokenTrust.Proofs.Action
import TokenTrust.Retrieval.Discovery

namespace TokenTrust

/-! ## 1. Answers -/

namespace Retrieval

/-- The report on a key set that an answer holds, if it holds one. -/
def keysIn : Answer → Except Failure KeyDocument.Report
  | .crash => .error .crash
  | .failure e => .error (.error e)
  | .body octets => ((KeyDocument.parse octets).mapError .json).mapError .error

theorem keysIn_eq_ok_iff {a : Answer} {report : KeyDocument.Report} :
    keysIn a = .ok report ↔
      ∃ octets, a = .body octets ∧ KeyDocument.parse octets = .ok report := by
  cases a with
  | crash => simp [keysIn]
  | failure e => simp [keysIn]
  | body octets => simp [keysIn, mapError_eq_ok_iff]

/-- The discovery document that an answer to a request for a URL holds, if it holds one. -/
def discoveryIn (url : Url) : Answer → Except Failure Discovery
  | .crash => .error .crash
  | .failure e => .error (.error (failureAt url e))
  | .body octets => (readDiscovery url octets).mapError .error

/-! ## 2. Fetching keys -/

/-- What announces a request for keys. -/
def fetchLine (source : KeySource) : LogLine :=
  .debug ("fetching json web keys from " ++ source.text)

/-- What is logged about a document that was read. -/
def reportLines (source : KeySource) (report : KeyDocument.Report) : List LogLine :=
  report.log ++ if report.keys.isEmpty
    then [.warn ("key set from " ++ source.text ++ " contains no usable keys")] else []

end Retrieval

/-- The state after a set was stored, at the moment that the clock shows next. -/
def State.storing (s : State) (source : KeySource) (keys : KeySet) (moment : Instant) : State :=
  { s with keys := (s.keys.store source keys moment).2, readings := s.readings + 1 }

namespace State

variable (s : State) (source : KeySource) (keys : KeySet) (moment : Instant)

@[simp] theorem storing_requests : (s.storing source keys moment).requests = s.requests := rfl

end State

namespace Retrieval

open TokenTrust.Action

variable {out : Surroundings} {source : KeySource} {s s' : State}

/-- How a fetch of keys ends. -/
inductive Fetching (out : Surroundings) (source : KeySource) (s : State) :
    Except Failure HeldKeys → State → Prop
  | crashed (h : keysIn (out.answer s.requests.length source) = .error .crash) :
    Fetching out source s (.error .crash) (s.asking (fetchLine source) source)
  | failed {e : Error} (h : keysIn (out.answer s.requests.length source) = .error (.error e)) :
    Fetching out source s (.error (.error (failureAt source.url e)))
      ((s.asking (fetchLine source) source).logging [failureLine source e])
  /-- The set was read, but it cannot be told when it expires. -/
  | undated {report : KeyDocument.Report}
    (h : keysIn (out.answer s.requests.length source) = .ok report)
    (hd : s.keys.expiryTold (out.clock s.readings) = false) :
    Fetching out source s (.error .crash)
      (((s.asking (fetchLine source) source).logging (reportLines source report)).advance 1)
  | stored {report : KeyDocument.Report}
    (h : keysIn (out.answer s.requests.length source) = .ok report)
    (hd : s.keys.expiryTold (out.clock s.readings) = true) :
    Fetching out source s (.ok (s.keys.store source report.keys (out.clock s.readings)).1)
      (((s.asking (fetchLine source) source).logging (reportLines source report)).storing source
        report.keys (out.clock s.readings))

theorem run_orFailure {α : Type} (r : Except Error α) :
    (orFailure source r).run out s = match r with
      | .ok a => (.ok a, s)
      | .error e =>
        (.error (.error (failureAt source.url e)), s.logging [failureLine source e]) := by
  cases r with
  | error e => rfl
  | ok a => rfl

/-- The clock is read, and then the moment of expiry is asked for. -/
theorem run_dateKeys :
    dateKeys.run out s = if s.keys.expiryTold (out.clock s.readings) then
      (.ok (out.clock s.readings), s.advance 1) else (.error .crash, s.advance 1) := by
  simp only [dateKeys, run_bind, run_now, run_keyCache, run_insist, State.advance_keys]
  cases s.keys.expiryTold (out.clock s.readings) <;> rfl

theorem run_storeKeys (keys : KeySet) :
    (storeKeys source keys).run out s = if s.keys.expiryTold (out.clock s.readings) then
      (.ok (s.keys.store source keys (out.clock s.readings)).1,
        s.storing source keys (out.clock s.readings)) else (.error .crash, s.advance 1) := by
  rw [storeKeys, run_bind, run_dateKeys]
  cases s.keys.expiryTold (out.clock s.readings) <;> rfl

/-- The end of a fetch: a document that was read is reported on and stored. -/
theorem run_fetchKeys_report (report : KeyDocument.Report) :
    (do
      logAll report.log
      if report.keys.isEmpty then
        log (.warn ("key set from " ++ source.text ++ " contains no usable keys"))
      storeKeys source report.keys : Action HeldKeys).run out s =
      (storeKeys source report.keys).run out (s.logging (reportLines source report)) := by
  by_cases h : report.keys.isEmpty
  · simp only [run_bind, run_logAll, h, if_true, run_log, reportLines, State.logging_logging]
  · simp only [run_bind, run_logAll, h, if_false, reportLines, List.append_nil,
      Bool.false_eq_true]

/-- **A fetch asks once.**  It then crashes, fails, or stores what it has read. -/
theorem fetching_of_run {r : Except Failure HeldKeys}
    (h : (fetchKeys source).run out s = (r, s')) : Fetching out source s r s' := by
  rw [fetchKeys, run_bind, run_log] at h
  simp only [run_bind, run_attempt, run_request, State.logging_requests] at h
  cases ha : out.answer s.requests.length source with
  | crash =>
    simp only [ha] at h
    cases h
    exact .crashed (by rw [ha]; rfl)
  | failure e =>
    simp only [ha, run_orFailure] at h
    cases h
    exact .failed (by rw [ha]; rfl)
  | body octets =>
    simp only [ha, run_orFailure] at h
    cases hp : KeyDocument.parse octets with
    | error f =>
      simp only [hp, mapError_error] at h
      cases h
      exact .failed (by rw [ha, keysIn, hp]; rfl)
    | ok report =>
      simp only [hp, mapError_ok] at h
      rw [← run_bind, run_fetchKeys_report, run_storeKeys] at h
      have hread : keysIn (out.answer s.requests.length source) = .ok report := by
        rw [ha, keysIn, hp]
        rfl
      cases hd : s.keys.expiryTold (out.clock s.readings) with
      | false =>
        cases (if_neg (ne_true_of_eq_false hd)).symm.trans h
        exact .undated hread hd
      | true =>
        cases (if_pos hd).symm.trans h
        exact .stored hread hd

namespace Fetching

variable {r : Except Failure HeldKeys}

/-- Whatever becomes of a fetch, the source was asked, and nobody else. -/
theorem requests_eq (h : Fetching out source s r s') : s'.requests = s.requests ++ [source] := by
  cases h with
  | crashed => simp
  | failed => simp
  | undated => simp
  | stored => simp

/-- A fetch without a result leaves the cache alone. -/
theorem keys_eq_of_error {f : Failure} (h : Fetching out source s (.error f) s') :
    s'.keys = s.keys := by
  cases h with
  | crashed => rfl
  | failed => rfl
  | undated => rfl

/-- A set that was fetched is what the answer holds, under a number of its own. -/
theorem held_eq {held : HeldKeys} (h : Fetching out source s (.ok held) s') :
    ∃ report, keysIn (out.answer s.requests.length source) = .ok report ∧
      held = ⟨s.keys.nextSerial, report.keys⟩ := by
  cases h with
  | stored h => exact ⟨_, h, rfl⟩

end Fetching

/-- **A set that was fetched between two states**: a request for the source was made, and the
octets it was answered with read as that set. -/
def Fetched (out : Surroundings) (s s' : State) (source : KeySource) (keys : KeySet) : Prop :=
  ∃ n octets report, s.requests.length ≤ n ∧ s'.requests[n]? = some source ∧
    out.answer n source = .body octets ∧ KeyDocument.parse octets = .ok report ∧
    report.keys = keys

namespace Fetched

variable {keys : KeySet}

/-- What was fetched in some time was fetched in every longer time. -/
theorem mono {s₀ s₁ : State} (h : Fetched out s s' source keys)
    (h₀ : s₀.Precedes s) (h₁ : s'.Precedes s₁) : Fetched out s₀ s₁ source keys := by
  obtain ⟨n, octets, report, hn, hr, ha, hp, hk⟩ := h
  exact ⟨n, octets, report, Nat.le_trans h₀.requests.length_le hn, h₁.getElem?_requests hr, ha, hp,
    hk⟩

/-- Only the requests of the first state count. -/
theorem congr_left {s₀ : State} (h : Fetched out s s' source keys)
    (hr : s₀.requests = s.requests) : Fetched out s₀ s' source keys := by
  obtain ⟨n, octets, report, hn, hs⟩ := h
  exact ⟨n, octets, report, hr ▸ hn, hs⟩

/-- Nothing is fetched where nothing is asked. -/
theorem not_of_requests_eq (h : s'.requests = s.requests) : ¬ Fetched out s s' source keys := by
  rintro ⟨n, octets, report, hn, hr, -⟩
  rw [h] at hr
  have hlen : n < s.requests.length := (List.getElem?_eq_some_iff.mp hr).1
  omega

end Fetched

namespace Fetching

/-- A fetch that ends with a set has fetched it. -/
theorem fetched {held : HeldKeys} (h : Fetching out source s (.ok held) s') :
    Fetched out s s' source held.keys := by
  obtain ⟨report, hr, rfl⟩ := h.held_eq
  obtain ⟨octets, ha, hp⟩ := keysIn_eq_ok_iff.mp hr
  refine ⟨s.requests.length, octets, report, Nat.le_refl _, ?_, ha, hp, rfl⟩
  simp [h.requests_eq]

/-- The set that was fetched while a fetch was under way is the one it ends with, if it has a
result. -/
theorem eq_of_fetched {held : HeldKeys} {source' : KeySource} {keys : KeySet}
    (h : Fetching out source s (.ok held) s') (hf : Fetched out s s' source' keys) :
    source' = source ∧ held = ⟨s.keys.nextSerial, keys⟩ := by
  obtain ⟨n, octets, report, hn, hr, ha, hp, rfl⟩ := hf
  have hlen : n < s'.requests.length := (List.getElem?_eq_some_iff.mp hr).1
  rw [h.requests_eq] at hr hlen
  have hn' : n = s.requests.length := by
    simp only [List.length_append, List.length_singleton] at hlen
    omega
  subst hn'
  have hs : source' = source := by simpa using hr.symm
  subst hs
  have hok := keysIn_eq_ok_iff.mpr ⟨octets, ha, hp⟩
  cases h with
  | stored h =>
    rw [hok] at h
    cases h
    exact ⟨rfl, rfl⟩

end Fetching

/-! ## 3. Getting and refreshing -/

/-- How getting ends: with a set that is found at the first look or at the second, or with a
fetch. -/
inductive Getting (out : Surroundings) (source : KeySource) (s : State) :
    Except Failure (HeldKeys × Origin) → State → Prop
  | first {held : HeldKeys} (h : s.keys.live? source (out.clock s.readings) = some held) :
    Getting out source s (.ok (held, .cache)) (s.advance 1)
  | second {held : HeldKeys} (h₁ : s.keys.live? source (out.clock s.readings) = none)
    (h₂ : s.keys.live? source (out.clock (s.readings + 1)) = some held) :
    Getting out source s (.ok (held, .cache)) (s.advance 2)
  | fetched {held : HeldKeys} {s' : State}
    (h₁ : s.keys.live? source (out.clock s.readings) = none)
    (h₂ : s.keys.live? source (out.clock (s.readings + 1)) = none)
    (hf : Fetching out source (s.advance 2) (.ok held) s') :
    Getting out source s (.ok (held, .network)) s'
  | failed {f : Failure} {s' : State}
    (h₁ : s.keys.live? source (out.clock s.readings) = none)
    (h₂ : s.keys.live? source (out.clock (s.readings + 1)) = none)
    (hf : Fetching out source (s.advance 2) (.error f) s') :
    Getting out source s (.error f) s'

theorem run_lookForKeys :
    (lookForKeys source).run out s =
      (.ok (s.keys.live? source (out.clock s.readings)), s.advance 1) := rfl

/-- **Getting looks twice before it fetches.** -/
theorem getting_of_run {r : Except Failure (HeldKeys × Origin)}
    (h : (getKeys source).run out s = (r, s')) : Getting out source s r s' := by
  rw [getKeys, run_bind, run_lookForKeys] at h
  cases h₁ : s.keys.live? source (out.clock s.readings) with
  | some held =>
    simp only [h₁, run_pure] at h
    cases h
    exact .first h₁
  | none =>
    simp only [h₁, getKeysExclusively, run_bind, run_lookForKeys, State.advance_keys,
      State.advance_readings, State.advance_advance] at h
    cases h₂ : s.keys.live? source (out.clock (s.readings + 1)) with
    | some held =>
      simp only [h₂, run_pure] at h
      cases h
      exact .second h₁ h₂
    | none =>
      simp only [h₂, run_bind] at h
      cases hf : (fetchKeys source).run out (s.advance 2) with
      | mk q s'' =>
        have hq := fetching_of_run hf
        rw [hf] at h
        cases q with
        | error f => cases h; exact .failed h₁ h₂ hq
        | ok held => cases h; exact .fetched h₁ h₂ hq

/-- A set that comes from the cache is an entry of it, and nothing is done. -/
theorem Getting.of_cache {held : HeldKeys} (h : Getting out source s (.ok (held, .cache)) s') :
    (s.keys.live? source (out.clock s.readings) = some held ∨
      s.keys.live? source (out.clock (s.readings + 1)) = some held) ∧
      ∃ n, s' = s.advance n := by
  cases h with
  | first h => exact ⟨Or.inl h, 1, rfl⟩
  | second _ h => exact ⟨Or.inr h, 2, rfl⟩

/-- How a refresh ends: with a set that is too young to be fetched again, found at the first look
or at the second, or with a fetch.  It crashes if it cannot be told whether the set is too young. -/
inductive Refreshing (out : Surroundings) (source : KeySource) (s : State) :
    Except Failure HeldKeys → State → Prop
  | untold (ht : s.keys.intervalTold source = false) :
    Refreshing out source s (.error .crash) (s.advance 1)
  | limited {held : HeldKeys}
    (h : s.keys.recent? source (out.clock s.readings) (out.clock (s.readings + 1)) = some held)
    (ht : s.keys.intervalTold source = true) :
    Refreshing out source s (.ok held) ((s.advance 2).logging [limitedLine source])
  | waited {held : HeldKeys}
    (h₁ : s.keys.recent? source (out.clock s.readings) (out.clock (s.readings + 1)) = none)
    (h₂ : s.keys.recent? source (out.clock s.readings) (out.clock (s.readings + 2)) = some held)
    (ht : s.keys.intervalTold source = true) :
    Refreshing out source s (.ok held) (s.advance 3)
  | fetched {r : Except Failure HeldKeys} {s' : State}
    (h₁ : s.keys.recent? source (out.clock s.readings) (out.clock (s.readings + 1)) = none)
    (h₂ : s.keys.recent? source (out.clock s.readings) (out.clock (s.readings + 2)) = none)
    (hf : Fetching out source (s.advance 3) r s') (ht : s.keys.intervalTold source = true) :
    Refreshing out source s r s'

theorem run_lookForRecentKeys (requestedAt : Instant) :
    (lookForRecentKeys source requestedAt).run out s = if s.keys.intervalTold source then
      (.ok (s.keys.recent? source requestedAt (out.clock s.readings)), s.advance 1)
      else (.error .crash, s) := by
  simp only [lookForRecentKeys, run_bind, run_keyCache, run_insist]
  cases s.keys.intervalTold source <;> rfl

/-- **A refresh looks twice before it fetches.** -/
theorem refreshing_of_run {r : Except Failure HeldKeys}
    (h : (refreshKeys source).run out s = (r, s')) : Refreshing out source s r s' := by
  simp only [refreshKeys, beginRefresh, run_bind, run_now, run_lookForRecentKeys,
    State.advance_keys, State.advance_readings, State.advance_advance] at h
  cases ht : s.keys.intervalTold source with
  | false =>
    simp only [ht, Bool.false_eq_true, if_false] at h
    cases h
    exact .untold ht
  | true => ?_
  simp only [ht, if_true] at h
  cases h₁ : s.keys.recent? source (out.clock s.readings) (out.clock (s.readings + 1)) with
  | some held =>
    simp only [h₁, Option.isSome_some, if_true] at h
    cases h
    exact .limited h₁ ht
  | none =>
    simp only [h₁, Option.isSome_none, Bool.false_eq_true, if_false, run_pure,
      refreshKeysExclusively, run_bind, run_lookForRecentKeys, State.advance_keys, ht, if_true,
      State.advance_readings, State.advance_advance] at h
    cases h₂ : s.keys.recent? source (out.clock s.readings) (out.clock (s.readings + 2)) with
    | some held =>
      simp only [h₂, run_pure] at h
      cases h
      exact .waited h₁ h₂ ht
    | none =>
      simp only [h₂] at h
      exact .fetched h₁ h₂ (fetching_of_run h) ht

/-! ## 4. Discovery -/

/-- What announces a request for a discovery document. -/
def discoveryLine (url : Url) : LogLine :=
  .debug ("fetching oidc configuration from " ++ url.redacted.text)

end Retrieval

/-- The state after a discovery document was stored, at the moment that the clock shows next. -/
def State.storingDiscovery (s : State) (url : Url) (document : Discovery) (moment : Instant) :
    State :=
  { s with discovery := s.discovery.store url document moment, readings := s.readings + 1 }

/-- The state after a crash in which the cache of discovery documents was being changed. -/
def State.poisoning (s : State) : State :=
  { s with discovery := { s.discovery with poisoned := true } }

namespace State

variable (s : State) (url : Url) (document : Discovery) (moment : Instant)

@[simp] theorem storingDiscovery_requests :
    (s.storingDiscovery url document moment).requests = s.requests := rfl

@[simp] theorem poisoning_requests : s.poisoning.requests = s.requests := rfl

end State

namespace Retrieval

open TokenTrust.Action

variable {out : Surroundings} {url : Url} {s s' : State}

/-- How getting a discovery document ends. -/
inductive Discovering (out : Surroundings) (url : Url) (s : State) :
    Except Failure Discovery → State → Prop
  | locked (hp : s.discovery.poisoned = true) :
    Discovering out url s (.error (.error DiscoveryCache.lockedError)) s
  | found {document : Discovery}
    (h : s.discovery.live? url (out.clock s.readings) = some document)
    (hp : s.discovery.poisoned = false) :
    Discovering out url s (.ok document) (s.advance 1)
  | failed {f : Failure} (h : s.discovery.live? url (out.clock s.readings) = none)
    (ha : discoveryIn url (out.answer s.requests.length ⟨url, none⟩) = .error f)
    (hp : s.discovery.poisoned = false) :
    Discovering out url s (.error f) ((s.advance 1).asking (discoveryLine url) ⟨url, none⟩)
  /-- The document was read, but it cannot be told when it expires. -/
  | undated {document : Discovery} (h : s.discovery.live? url (out.clock s.readings) = none)
    (ha : discoveryIn url (out.answer s.requests.length ⟨url, none⟩) = .ok document)
    (hp : s.discovery.poisoned = false)
    (hd : s.discovery.expiryTold (out.clock (s.readings + 1)) = false) :
    Discovering out url s (.error .crash)
      (((s.advance 1).asking (discoveryLine url) ⟨url, none⟩).advance 1).poisoning
  | stored {document : Discovery} (h : s.discovery.live? url (out.clock s.readings) = none)
    (ha : discoveryIn url (out.answer s.requests.length ⟨url, none⟩) = .ok document)
    (hp : s.discovery.poisoned = false)
    (hd : s.discovery.expiryTold (out.clock (s.readings + 1)) = true) :
    Discovering out url s (.ok document)
      (((s.advance 1).asking (discoveryLine url) ⟨url, none⟩).storingDiscovery url document
        (out.clock (s.readings + 1)))

theorem run_usableDiscovery :
    usableDiscovery.run out s = if s.discovery.poisoned then
      (.error (.error DiscoveryCache.lockedError), s) else (.ok s.discovery, s) := by
  rw [usableDiscovery, run_bind, run_discoveryCache]
  cases h : s.discovery.poisoned <;> simp only [h] <;> rfl

/-- A document is stored, or the attempt leaves the cache poisoned. -/
theorem run_storeDiscovery (document : Discovery) (hp : s.discovery.poisoned = false) :
    (storeDiscovery url document).run out s =
      if s.discovery.expiryTold (out.clock s.readings) then
        (.ok (), s.storingDiscovery url document (out.clock s.readings))
      else (.error .crash, (s.advance 1).poisoning) := by
  rw [storeDiscovery, run_bind, run_usableDiscovery, if_neg (ne_true_of_eq_false hp)]
  simp only [run_bind, run_now]
  cases s.discovery.expiryTold (out.clock s.readings) <;> rfl

/-- **A discovery document is asked for once at most.** -/
theorem discovering_of_run {r : Except Failure Discovery}
    (h : (getDiscovery url).run out s = (r, s')) : Discovering out url s r s' := by
  rw [getDiscovery, run_bind, run_usableDiscovery] at h
  cases hp : s.discovery.poisoned with
  | true =>
    rw [if_pos hp] at h
    cases h
    exact .locked hp
  | false => ?_
  rw [if_neg (ne_true_of_eq_false hp)] at h
  simp only [run_bind, run_now] at h
  cases hl : s.discovery.live? url (out.clock s.readings) with
  | some document =>
    simp only [hl, run_pure] at h
    cases h
    exact .found hl hp
  | none =>
    simp only [hl, fetchDiscovery, run_bind, run_log, run_attempt, run_request,
      State.logging_requests, State.advance_requests] at h
    cases ha : out.answer s.requests.length ⟨url, none⟩ with
    | crash =>
      simp only [ha] at h
      cases h
      exact .failed hl (by rw [ha]; rfl) hp
    | failure e =>
      simp only [ha, run_ofExcept, mapError_error] at h
      cases h
      exact .failed hl (by rw [ha]; rfl) hp
    | body octets =>
      simp only [ha, run_ofExcept, mapError_ok] at h
      cases hread : readDiscovery url octets with
      | error e =>
        simp only [hread] at h
        cases h
        exact .failed hl (by rw [ha, discoveryIn, hread]; rfl) hp
      | ok document =>
        have hdocument : discoveryIn url (out.answer s.requests.length ⟨url, none⟩) =
            .ok document := by
          rw [ha, discoveryIn, hread]
          rfl
        have hstore := @run_storeDiscovery out url
          ((s.advance 1).asking (discoveryLine url) ⟨url, none⟩) document hp
        simp only [hread, mapError_ok] at h
        change (storeDiscovery url document >>= fun _ => pure document).run out
          ((s.advance 1).asking (discoveryLine url) ⟨url, none⟩) = (r, s') at h
        cases hd : s.discovery.expiryTold (out.clock (s.readings + 1)) with
        | false =>
          rw [run_bind, hstore.trans (if_neg (ne_true_of_eq_false hd))] at h
          cases h
          exact .undated hl hdocument hp hd
        | true =>
          rw [run_bind, hstore.trans (if_pos hd)] at h
          cases h
          exact .stored hl hdocument hp hd

/-! ## 5. What every retrieval keeps -/

/-- **A relation that retrievals keep.**  It relates the state before a reading of the clock, a line
that is logged, and a request for a source that may be asked to the state after it, and it can be
put together.  Whatever else a retrieval does follows from these. -/
structure Kept (out : Surroundings) (mayAsk : KeySource → Prop) (R : State → State → Prop) :
    Prop where
  trans : ∀ {s s' s'' : State}, R s s' → R s' s'' → R s s''
  advance : ∀ (s : State) (n : Nat), R s (s.advance n)
  logging : ∀ (s : State) (lines : List LogLine), R s (s.logging lines)
  fetching : ∀ {source : KeySource} {s s' : State} {r : Except Failure HeldKeys},
    mayAsk source → Fetching out source s r s' → R s s'
  discovering : ∀ {url : Url} {s s' : State} {r : Except Failure Discovery},
    mayAsk ⟨url, none⟩ → Discovering out url s r s' → R s s'

namespace Kept

variable {mayAsk : KeySource → Prop} {R : State → State → Prop}

theorem refl (k : Kept out mayAsk R) (s : State) : R s s :=
  k.advance s 0

theorem getting {source : KeySource} {r : Except Failure (HeldKeys × Origin)}
    (k : Kept out mayAsk R) (hm : mayAsk source) (h : Getting out source s r s') : R s s' := by
  cases h with
  | first => exact k.advance s 1
  | second => exact k.advance s 2
  | fetched _ _ hf => exact k.trans (k.advance s 2) (k.fetching hm hf)
  | failed _ _ hf => exact k.trans (k.advance s 2) (k.fetching hm hf)

theorem refreshing {source : KeySource} {r : Except Failure HeldKeys}
    (k : Kept out mayAsk R) (hm : mayAsk source) (h : Refreshing out source s r s') : R s s' := by
  cases h with
  | untold => exact k.advance s 1
  | limited => exact k.trans (k.advance s 2) (k.logging _ _)
  | waited => exact k.advance s 3
  | fetched _ _ hf => exact k.trans (k.advance s 3) (k.fetching hm hf)

end Kept

/-- **Retrievals only add to what happened.** -/
theorem kept_precedes (out : Surroundings) : Kept out (fun _ => True) State.Precedes where
  trans := State.Precedes.trans
  advance s n := ⟨List.prefix_refl _, Nat.le_add_right _ _⟩
  logging s lines := ⟨List.prefix_append _ _, Nat.le_refl _⟩
  fetching := by
    intro source s s' r _ h
    cases h with
    | crashed => exact State.precedes_asking s _ _
    | failed =>
      exact (State.precedes_asking s _ _).trans ⟨List.prefix_append _ _, Nat.le_refl _⟩
    | undated =>
      exact (State.precedes_asking s _ _).trans ⟨List.prefix_append _ _, Nat.le_succ _⟩
    | stored =>
      exact (State.precedes_asking s _ _).trans ⟨List.prefix_append _ _, Nat.le_succ _⟩
  discovering := by
    intro url s s' r _ h
    have hs : s.Precedes (s.advance 1) := ⟨List.prefix_refl _, Nat.le_succ _⟩
    cases h with
    | locked => exact State.Precedes.refl s
    | found => exact hs
    | failed => exact hs.trans (State.precedes_asking _ _ _)
    | undated =>
      exact (hs.trans (State.precedes_asking _ _ _)).trans ⟨List.prefix_refl _, Nat.le_succ _⟩
    | stored =>
      exact (hs.trans (State.precedes_asking _ _ _)).trans ⟨List.prefix_refl _, Nat.le_succ _⟩

end Retrieval
end TokenTrust

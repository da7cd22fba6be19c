/-
# Caches do not show, but for the clock

If the network answers a request by its source alone, then no verdict depends on the caches: each
token of a run gets the verdict that it gets where nothing is stored, and if it is refused, then in
the same words.

What the network answers by a function `f`, the caches hold copies of, or nothing (`Faithful`).
This is all that is known of them: whether something is stored depends on the clock, on the
room and on what was cleared, and none of it matters, because a stored set and a fetched one are
read from the same answer.  Both ways of getting keys end in what `f` gives alone (`keysOf`),
and so does the check (`outcome`).  A set that is exchanged for a missing key is exchanged for
the same one, and misses the same key.

There is one way in which a cache can show.  Whoever uses it may have to tell a moment that is too
late to be told, and then there is no verdict, or none that is about the token (`OrFault`).  It
takes a span that cannot be added to what the clock shows (`State.Unable`); where every span can be,
the verdicts are the same.
-/
import TokenTrust.Proofs.Budget

namespace TokenTrust

open TokenTrust.Action TokenTrust.Retrieval

/-! ## 1. Faults -/

/-- **A fault**: a crash, or what everybody is told who comes to a poisoned cache. -/
def Failure.IsFault (g : Failure) : Prop :=
  g = .crash ∨ g = .error DiscoveryCache.lockedError

/-- **A result is the expected one, or else it is a fault**, and then there is a reason. -/
inductive OrFault {α : Type} (reason : Prop) (expected : Except Failure α) :
    Except Failure α → Prop
  | met : OrFault reason expected expected
  | fault {g : Failure} (h : reason) (hg : g.IsFault) : OrFault reason expected (.error g)

namespace OrFault

variable {α β : Type} {reason reason' : Prop} {r expected : Except Failure α}

theorem crash (h : reason) : OrFault reason expected (.error .crash) :=
  .fault h (Or.inl rfl)

theorem imp (hr : reason → reason') (h : OrFault reason expected r) :
    OrFault reason' expected r := by
  cases h with
  | met => exact .met
  | fault h hg => exact .fault (hr h) hg

/-- A value is the expected one. -/
theorem expected_eq {a : α} (h : OrFault reason expected (.ok a)) : expected = .ok a := by
  cases h with
  | met => rfl

theorem map (h : OrFault reason expected r) (f : α → β) :
    OrFault reason (expected.map f) (r.map f) := by
  cases h with
  | met => exact .met
  | fault h hg => exact .fault h hg

/-- What goes on from an expected result ends as expected. -/
theorem bind {f g : α → Except Failure β} (h : OrFault reason expected r)
    (hfg : ∀ a, r = .ok a → OrFault reason (g a) (f a)) :
    OrFault reason (expected.bind g) (r.bind f) := by
  cases h with
  | met =>
    cases r with
    | error e => exact .met
    | ok a => exact hfg a rfl
  | fault h hg => exact .fault h hg

end OrFault

/-- A moment cannot be told that a cache of keys may ask for. -/
def KeyCache.Unable (out : Surroundings) (c : KeyCache) : Prop :=
  (∃ i, c.expiryTold (out.clock i) = false) ∨ ∃ source, c.intervalTold source = false

/-- A moment cannot be told that a cache of discovery documents may ask for, or this has happened
already. -/
def DiscoveryCache.Unable (out : Surroundings) (c : DiscoveryCache) : Prop :=
  c.poisoned = true ∨ ∃ i, c.expiryTold (out.clock i) = false

/-- **A moment cannot be told** that the caches may ask for. -/
def State.Unable (out : Surroundings) (s : State) : Prop :=
  s.keys.Unable out ∨ s.discovery.Unable out

/-! ## 2. A network without moods -/

/-- **The network answers by the source alone**, whenever and however often it is asked. -/
def Surroundings.Answers (out : Surroundings) (f : KeySource → Answer) : Prop :=
  ∀ n source, out.answer n source = f source

/-- **What is stored is what the network answers.** -/
structure Faithful (f : KeySource → Answer) (s : State) : Prop where
  keys : ∀ source e, (source, e) ∈ s.keys.entries →
    ∃ report, keysIn (f source) = .ok report ∧ report.keys = e.held.keys
  discovery : ∀ url e, (url, e) ∈ s.discovery.entries →
    discoveryIn url (f ⟨url, none⟩) = .ok e.document

namespace Retrieval

variable {f : KeySource → Answer} {out : Surroundings} {source : KeySource} {s s' : State}

/-- The keys of a source, as the network gives them. -/
def keysOf (f : KeySource → Answer) (source : KeySource) : Except Failure KeySet :=
  match keysIn (f source) with
  | .ok report => .ok report.keys
  | .error .crash => .error .crash
  | .error (.error e) => .error (.error (failureAt source.url e))

/-- The document at a URL, as the network gives it. -/
def documentOf (f : KeySource → Answer) (url : Url) : Except Failure Discovery :=
  discoveryIn url (f ⟨url, none⟩)

/-- What is stored for a source and may be used is what the network gives. -/
theorem keysOf_eq_of_live (h : Faithful f s) {now : Instant} {held : HeldKeys}
    (hl : s.keys.live? source now = some held) : keysOf f source = .ok held.keys := by
  obtain ⟨e, he, -, rfl⟩ := KeyCache.live?_eq_some_iff.mp hl
  obtain ⟨report, hr, hk⟩ := h.keys source e (KeyCache.mem_of_find? he)
  rw [keysOf, hr, ← hk]

theorem Fetching.keysOf_orFault {r : Except Failure HeldKeys} (ha : out.Answers f)
    (h : Fetching out source s r s') :
    OrFault (s.keys.Unable out) (keysOf f source) (r.map (·.keys)) := by
  cases h with
  | crashed h =>
    rw [ha] at h
    rw [keysOf, h]
    exact .met
  | failed h =>
    rw [ha] at h
    rw [keysOf, h]
    exact .met
  | undated _ hd => exact .crash (Or.inl ⟨_, hd⟩)
  | stored h =>
    rw [ha] at h
    rw [keysOf, h]
    exact .met

/-- A stored set is as expected. -/
theorem orFault_of_live (hs : Faithful f s) {now : Instant} {held : HeldKeys}
    (hl : s.keys.live? source now = some held) :
    OrFault (s.keys.Unable out) (keysOf f source) (.ok held.keys) := by
  rw [keysOf_eq_of_live hs hl]
  exact .met

/-- **Getting ends in what the network gives**, wherever the set comes from. -/
theorem Getting.keysOf_orFault {r : Except Failure (HeldKeys × Origin)} (ha : out.Answers f)
    (hs : Faithful f s) (h : Getting out source s r s') :
    OrFault (s.keys.Unable out) (keysOf f source) (r.map (·.1.keys)) := by
  cases h with
  | first h => exact orFault_of_live hs h
  | second _ h => exact orFault_of_live hs h
  | fetched _ _ hf => exact hf.keysOf_orFault ha
  | failed _ _ hf => exact hf.keysOf_orFault ha

/-- **A refresh ends in what the network gives.** -/
theorem Refreshing.keysOf_orFault {r : Except Failure HeldKeys} (ha : out.Answers f)
    (hs : Faithful f s) (h : Refreshing out source s r s') :
    OrFault (s.keys.Unable out) (keysOf f source) (r.map (·.keys)) := by
  cases h with
  | untold ht => exact .crash (Or.inr ⟨_, ht⟩)
  | limited h => exact orFault_of_live hs (KeyCache.live?_of_recent? h)
  | waited _ h => exact orFault_of_live hs (KeyCache.live?_of_recent? h)
  | fetched _ _ hf =>
    have hfetched := hf.keysOf_orFault ha
    exact hfetched

/-- **A discovery document is what the network gives.** -/
theorem Discovering.documentOf_orFault {url : Url} {r : Except Failure Discovery}
    (ha : out.Answers f) (hs : Faithful f s) (h : Discovering out url s r s') :
    OrFault (s.discovery.Unable out) (documentOf f url) r := by
  cases h with
  | locked hp => exact .fault (Or.inl hp) (Or.inr rfl)
  | found h =>
    obtain ⟨e, he, -, rfl⟩ := DiscoveryCache.live?_eq_some_iff.mp h
    rw [documentOf, hs.discovery url e (DiscoveryCache.mem_of_find? he)]
    exact .met
  | failed _ h =>
    rw [documentOf, ← ha, h]
    exact .met
  | undated _ _ _ hd => exact .crash (Or.inr ⟨_, hd⟩)
  | stored _ h =>
    rw [documentOf, ← ha, h]
    exact .met

/-! ## 3. What is stored stays so -/

theorem Fetching.faithful {r : Except Failure HeldKeys} (ha : out.Answers f)
    (h : Fetching out source s r s') (hs : Faithful f s) : Faithful f s' := by
  cases h with
  | crashed => exact ⟨hs.keys, hs.discovery⟩
  | failed => exact ⟨hs.keys, hs.discovery⟩
  | undated => exact ⟨hs.keys, hs.discovery⟩
  | @stored report h =>
    rw [ha] at h
    refine ⟨fun source' e he => ?_, hs.discovery⟩
    rcases KeyCache.mem_store he with ⟨hold, -⟩ | hnew
    · exact hs.keys source' e hold
    · obtain ⟨rfl, rfl⟩ := Prod.mk.inj hnew
      exact ⟨report, h, rfl⟩

theorem Discovering.faithful {url : Url} {r : Except Failure Discovery} (ha : out.Answers f)
    (h : Discovering out url s r s') (hs : Faithful f s) : Faithful f s' := by
  cases h with
  | locked => exact hs
  | found => exact ⟨hs.keys, hs.discovery⟩
  | failed => exact ⟨hs.keys, hs.discovery⟩
  | undated => exact ⟨hs.keys, hs.discovery⟩
  | stored _ h =>
    rw [ha] at h
    refine ⟨hs.keys, fun url' e he => ?_⟩
    rcases DiscoveryCache.mem_store he with hold | hnew
    · exact hs.discovery url' e hold
    · obtain ⟨rfl, rfl⟩ := Prod.mk.inj hnew
      exact h

/-- Retrievals leave the caches faithful. -/
theorem kept_faithful (ha : out.Answers f) :
    Kept out (fun _ => True) fun s s' => Faithful f s → Faithful f s' where
  trans h h' hs := h' (h hs)
  advance _ _ hs := ⟨hs.keys, hs.discovery⟩
  logging _ _ hs := ⟨hs.keys, hs.discovery⟩
  fetching _ h hs := h.faithful ha hs
  discovering _ h hs := h.faithful ha hs

end Retrieval

/-! ## 4. The check without caches -/

namespace SignatureCheck

variable {f : KeySource → Answer} {out : Surroundings} {s s' : State}
variable {c : SignatureCheck} {t : Token}

/-- The source of the keys, as the network gives it. -/
def sourceOf (f : KeySource → Answer) (c : SignatureCheck) (t : Token) :
    Except Failure KeySource :=
  match c.service with
  | .xsuaa => (c.xsuaaSource t).mapError .error
  | .ias => (documentOf f c.discoveryUrl).bind (c.sourceIn t)

/-- **The outcome of a check without caches**: a function of the network and of the token. -/
def outcome (f : KeySource → Answer) (c : SignatureCheck) (t : Token) : Except Failure Unit :=
  ((precheck t).mapError .error).bind fun alg =>
    (sourceOf f c t).bind fun source =>
      (keysOf f source).bind fun keys =>
        (judge keys alg t).mapError .error

theorem Sourcing.sourceOf_orFault {r : Except Failure KeySource} (ha : out.Answers f)
    (hs : Faithful f s) (h : Sourcing out c t s r s') :
    OrFault (s.discovery.Unable out) (sourceOf f c t) r := by
  cases h with
  | xsuaa hc =>
    rw [sourceOf, hc]
    exact .met
  | ias hc hd =>
    rw [sourceOf, hc]
    exact ((discovering_of_run hd).documentOf_orFault ha hs).bind fun _ _ => .met

/-- A token is judged with no set that does not hold its key. -/
theorem judge_eq_error {keys : KeySet} {alg : Algorithm} {e : Error}
    (h : keys.select alg t.keyId? = .error e) : judge keys alg t = .error e := by
  rw [judge, h]
  rfl

/-- **The set that is found decides as the one that the network gives.**  It is that set, or there
is none because that set does not hold the key. -/
theorem Finding.judge_orFault {source : KeySource} {alg : Algorithm} {r : Except Failure KeySet}
    (ha : out.Answers f) (hs : Faithful f s) (h : Finding out source alg t.keyId? s r s') :
    OrFault (s.keys.Unable out)
      ((keysOf f source).bind fun keys => (judge keys alg t).mapError .error)
      (r.bind fun keys => (judge keys alg t).mapError .error) := by
  cases h with
  | ungot hg => exact ((getting_of_run hg).keysOf_orFault ha hs).bind fun _ _ => .met
  | found hg => exact ((getting_of_run hg).keysOf_orFault ha hs).bind fun _ _ => .met
  | missing hg hm =>
    have hk := ((getting_of_run hg).keysOf_orFault ha hs).expected_eq
    simp only [hk, Except.bind, judge_eq_error hm, mapError_error]
    exact .met
  | @refreshed held e i q s₁ _ hg hm _ hq =>
    have hk := ((getting_of_run hg).keysOf_orFault ha hs).expected_eq
    obtain ⟨-, n, rfl⟩ := (getting_of_run hg).of_cache
    -- nothing was stored so far, so the refresh starts from the same caches
    have hs₁ : Faithful f ((s.advance n).logging [unknownLine source i]) :=
      ⟨hs.keys, hs.discovery⟩
    have hq' := (refreshing_of_run hq).keysOf_orFault ha hs₁
    rw [hk] at hq' ⊢
    cases q with
    | error g =>
      cases hq' with
      | fault h hg => exact .fault h hg
    | ok refreshed =>
      have hsame : held.keys = refreshed.keys := Except.ok.inj hq'.expected_eq
      by_cases hser : refreshed.serial = held.serial
      · simp only [exchanged, Except.bind, hser, if_true, judge_eq_error hm, mapError_error]
        exact .met
      · simp only [exchanged, Except.bind, hser, if_false, hsame]
        exact .met

/-- **The check ends in what the network gives**, whatever is stored. -/
theorem Checking.outcome_orFault {r : Except Failure Unit} (ha : out.Answers f)
    (hs : Faithful f s) (h : Checking out c t s r s') :
    OrFault (s.Unable out) (outcome f c t) r := by
  have sourced {q : Except Failure KeySource} {s₁ : State}
      (hq : (c.source t).run out s = (q, s₁)) : OrFault (s.Unable out) (sourceOf f c t) q :=
    ((sourcing_of_run hq).sourceOf_orFault ha hs).imp Or.inr
  have judged {source : KeySource} {s₁ s' : State} {alg : Algorithm} {q : Except Failure KeySet}
      (hq : (c.source t).run out s = (.ok source, s₁))
      (hk : (keysFor source alg t.keyId?).run out s₁ = (q, s')) :
      OrFault (s.Unable out)
        ((keysOf f source).bind fun keys => (judge keys alg t).mapError .error)
        (q.bind fun keys => (judge keys alg t).mapError .error) := by
    have hs₁ : Faithful f s₁ :=
      kept_sourcing (kept_faithful ha) (fun _ => trivial) (sourcing_of_run hq) hs
    have hj := (finding_of_run hk).judge_orFault ha hs₁
    rw [(sourcing_of_run hq).keys_eq] at hj
    exact hj.imp Or.inl
  cases h with
  | refused hp =>
    rw [outcome, hp]
    exact .met
  | sourceless hp hq =>
    rw [outcome, hp]
    exact (sourced hq).bind (f := fun _ => .error .crash) fun _ h => nomatch h
  | keyless hp hq hk =>
    rw [outcome, hp, mapError_ok, Except.bind, (sourced hq).expected_eq]
    exact judged hq hk
  | judged hp hq hk =>
    rw [outcome, hp, mapError_ok, Except.bind, (sourced hq).expected_eq]
    exact judged hq hk

end SignatureCheck

/-! ## 5. What can be told -/

/-- The span that an operation sets. -/
def Operation.span? : Operation → Option Duration
  | .configure (.ttl d) | .configure (.minRefresh d) | .configureDiscovery d => some d
  | _ => none

/-- The spans that the caches are told to add to moments, in a run. -/
def State.spans (s : State) (ops : List Operation) : List Duration :=
  s.keys.ttl :: s.keys.minRefresh :: s.discovery.ttl :: ops.filterMap Operation.span?

/-- **The caches ask for nothing but some spans**, and these can be added to every moment at which
something was stored. -/
structure Able (ds : List Duration) (s : State) : Prop where
  ttl : s.keys.ttl ∈ ds
  minRefresh : s.keys.minRefresh ∈ ds
  documents : s.discovery.ttl ∈ ds
  sound : s.discovery.poisoned = false
  entries : ∀ source e, (source, e) ∈ s.keys.entries → ∀ d ∈ ds, e.storedAt.reaches d = true

section

variable {out : Surroundings} {s s' : State} {ds : List Duration}

/-- If the spans can be added to everything that the clock shows, all moments can be told. -/
theorem Able.not_unable (h : Able ds s) (hds : ∀ d ∈ ds, ∀ i, (out.clock i).reaches d = true) :
    ¬ s.Unable out := by
  rintro ((⟨i, hi⟩ | ⟨source, hi⟩) | (hi | ⟨i, hi⟩))
  · exact Bool.false_ne_true (hi.symm.trans (hds _ h.ttl i))
  · cases he : s.keys.find? source with
    | none =>
      rw [KeyCache.intervalTold, he] at hi
      exact Bool.false_ne_true hi.symm
    | some e =>
      rw [KeyCache.intervalTold_of_find? he] at hi
      exact Bool.false_ne_true
        (hi.symm.trans (h.entries source e (KeyCache.mem_of_find? he) _ h.minRefresh))
  · exact Bool.false_ne_true (h.sound.symm.trans hi)
  · exact Bool.false_ne_true (hi.symm.trans (hds _ h.documents i))

theorem Retrieval.kept_able (hds : ∀ d ∈ ds, ∀ i, (out.clock i).reaches d = true) :
    Kept out (fun _ => True) fun s s' => Able ds s → Able ds s' where
  trans h h' hs := h' (h hs)
  advance _ _ hs := ⟨hs.ttl, hs.minRefresh, hs.documents, hs.sound, hs.entries⟩
  logging _ _ hs := ⟨hs.ttl, hs.minRefresh, hs.documents, hs.sound, hs.entries⟩
  fetching := by
    intro source s s' r _ h hs
    cases h with
    | stored =>
      refine ⟨hs.ttl, hs.minRefresh, hs.documents, hs.sound, fun source' e he d hd => ?_⟩
      rcases KeyCache.mem_store he with ⟨hold, -⟩ | hnew
      · exact hs.entries source' e hold d hd
      · obtain ⟨rfl, rfl⟩ := Prod.mk.inj hnew
        exact hds d hd _
    | _ => exact ⟨hs.ttl, hs.minRefresh, hs.documents, hs.sound, hs.entries⟩
  discovering := by
    intro url s s' r _ h hs
    cases h with
    | undated _ _ _ hd => exact nomatch hd.symm.trans (hds _ hs.documents _)
    | _ => exact ⟨hs.ttl, hs.minRefresh, hs.documents, hs.sound, hs.entries⟩

/-- **Operations leave the caches able**, if what they set is among the spans. -/
theorem Able.next (h : Able ds s) (hds : ∀ d ∈ ds, ∀ i, (out.clock i).reaches d = true)
    {op : Operation} (hop : ∀ d, op.span? = some d → d ∈ ds) : Able ds (s.next out op) := by
  cases op with
  | configure x =>
    have hentries : ∀ source e, (source, e) ∈ (s.next out (.configure x)).keys.entries →
        ∀ d ∈ ds, e.storedAt.reaches d = true := by
      intro source e he d hd
      rcases KeyCache.mem_configure he with ⟨e₀, hmem, -, hat⟩ | ⟨-, hnow⟩
      · exact hat ▸ h.entries source e₀ hmem d hd
      · exact hnow ▸ hds d hd _
    cases x with
    | ttl d => exact ⟨hop d rfl, h.minRefresh, h.documents, h.sound, hentries⟩
    | minRefresh d => exact ⟨h.ttl, hop d rfl, h.documents, h.sound, hentries⟩
    | _ => exact ⟨h.ttl, h.minRefresh, h.documents, h.sound, hentries⟩
  | configureDiscovery d => exact ⟨h.ttl, h.minRefresh, hop d rfl, h.sound, h.entries⟩
  | clear => exact ⟨h.ttl, h.minRefresh, h.documents, h.sound, fun _ _ he => nomatch he⟩
  | _ => exact (kept_able hds).next s rfl h

end

/-! ## 6. Runs -/

/-- Whether an operation puts a set into the cache that the network did not give. -/
def Operation.preloads : Operation → Bool
  | .configure (.preloaded _ _) => true
  | _ => false

namespace State

variable {f : KeySource → Answer} {out fresh : Surroundings} {s s₀ : State}

/-- **The caches stay faithful**, whatever is done with them but preloading. -/
theorem faithful_next (ha : out.Answers f) (hs : Faithful f s) {op : Operation}
    (hop : op.preloads = false) : Faithful f (s.next out op) := by
  cases op with
  | configure x =>
    refine ⟨fun source e he => ?_, hs.discovery⟩
    rcases KeyCache.mem_configure he with ⟨e₀, hmem, hheld, -⟩ | ⟨rfl, -⟩
    · rw [← hheld]
      exact hs.keys source e₀ hmem
    · exact nomatch hop
  | configureDiscovery => exact ⟨hs.keys, hs.discovery⟩
  | clear => exact ⟨fun _ _ he => (nomatch he), hs.discovery⟩
  | _ => exact (kept_faithful ha).next s rfl hs

/-- The verdict of an operation, if it is a check. -/
def verdict? (out : Surroundings) (s : State) : Operation → Option (Except Failure Verdict)
  | .validate c t => some ((Validator.ofAction c.check t).run out s).1
  | _ => none

/-- The verdicts of a run, in their order. -/
def verdicts (out : Surroundings) : State → List Operation → List (Except Failure Verdict)
  | _, [] => []
  | s, op :: ops => (s.verdict? out op).toList ++ verdicts out (s.next out op) ops

/-- A state in which nothing is stored.  Everything may be set up as it likes. -/
structure Fresh (s : State) : Prop where
  keys : s.keys.entries = []
  discovery : s.discovery.entries = []

theorem Fresh.faithful (h : s.Fresh) : Faithful f s :=
  ⟨fun _ _ he => absurd (h.keys ▸ he) List.not_mem_nil,
    fun _ _ he => absurd (h.discovery ▸ he) List.not_mem_nil⟩

theorem Fresh.able (h : s.Fresh) (hsound : s.discovery.poisoned = false) (ops : List Operation) :
    Able (s.spans ops) s where
  ttl := by simp [spans]
  minRefresh := by simp [spans]
  documents := by simp [spans]
  sound := hsound
  entries _ _ he := absurd (h.keys ▸ he) List.not_mem_nil

/-- Where nothing is stored, only the times to live are asked for. -/
theorem Fresh.not_unable (h : s.Fresh) (hsound : s.discovery.poisoned = false)
    (hkeys : ∀ i, s.keys.expiryTold (out.clock i) = true)
    (hdocuments : ∀ i, s.discovery.expiryTold (out.clock i) = true) : ¬ s.Unable out := by
  rintro ((⟨i, hi⟩ | ⟨source, hi⟩) | (hi | ⟨i, hi⟩))
  · exact Bool.false_ne_true (hi.symm.trans (hkeys i))
  · rw [KeyCache.intervalTold, KeyCache.find?, h.keys] at hi
    exact Bool.false_ne_true hi.symm
  · exact Bool.false_ne_true (hsound.symm.trans hi)
  · exact Bool.false_ne_true (hi.symm.trans (hdocuments i))

/-- A verdict that says nothing about the token: there is none, or it only says that the cache of
discovery documents is poisoned. -/
def IsFaulty (v : Except Failure Verdict) : Prop :=
  v = .error .crash ∨ v = .ok (.ofError DiscoveryCache.lockedError)

theorem isFaulty_of_isFault {g : Failure} (h : g.IsFault) :
    IsFaulty (SignatureCheck.verdictOf (.error g)) := by
  rcases h with rfl | rfl
  · exact Or.inl rfl
  · exact Or.inr rfl

/-- **The verdict is a function of the network and of the token**, or it is faulty and there is a
reason. -/
theorem verdict_eq_or_isFaulty (ha : out.Answers f) (hs : Faithful f s) (c : SignatureCheck)
    (t : Token) :
    ((Validator.ofAction c.check t).run out s).1 = SignatureCheck.verdictOf (c.outcome f t) ∨
      s.Unable out ∧ IsFaulty ((Validator.ofAction c.check t).run out s).1 := by
  have houtcome := (SignatureCheck.checking_run out c t s).outcome_orFault ha hs
  rw [SignatureCheck.run_validator]
  generalize ((c.check t).run out s).1 = r at houtcome
  cases houtcome with
  | met => exact Or.inl rfl
  | fault h hg => exact Or.inr ⟨h, isFaulty_of_isFault hg⟩

/-- The verdict of an operation as the network and the token give it, if it is a check. -/
def expected? (f : KeySource → Answer) : Operation → Option (Except Failure Verdict)
  | .validate c t => some (SignatureCheck.verdictOf (c.outcome f t))
  | _ => none

/-- Where all moments can be told, verdicts are as expected. -/
theorem verdict?_eq (ha : out.Answers f) (hs : Faithful f s) (hable : ¬ s.Unable out) :
    s.verdict? out = expected? f := by
  funext op
  cases op with
  | validate c t =>
    rcases verdict_eq_or_isFaulty ha hs c t with h | ⟨h, -⟩
    · rw [verdict?, h, expected?]
    · exact absurd h hable
  | _ => rfl

/-- **The verdicts of a run are as expected or faulty.** -/
theorem verdicts_alike (ha : out.Answers f) (hs : Faithful f s) {ops : List Operation}
    (hops : ∀ op ∈ ops, op.preloads = false) :
    List.Forall₂ (fun v v₀ => v = v₀ ∨ IsFaulty v) (s.verdicts out ops)
      (ops.filterMap (expected? f)) := by
  induction ops generalizing s with
  | nil => exact .nil
  | cons op ops ih =>
    have htail := ih (faithful_next ha hs (hops op List.mem_cons_self))
      fun o ho => hops o (List.mem_cons_of_mem _ ho)
    cases op with
    | validate c t => exact .cons ((verdict_eq_or_isFaulty ha hs c t).imp_right And.right) htail
    | _ => exact htail

/-- **The verdicts of a run are as expected** while the caches are able. -/
theorem verdicts_eq_expected {ds : List Duration} (ha : out.Answers f) (hs : Faithful f s)
    (hable : Able ds s) (hds : ∀ d ∈ ds, ∀ i, (out.clock i).reaches d = true)
    {ops : List Operation} (hops : ∀ op ∈ ops, op.preloads = false)
    (hset : ∀ op ∈ ops, ∀ d, op.span? = some d → d ∈ ds) :
    s.verdicts out ops = ops.filterMap (expected? f) := by
  induction ops generalizing s with
  | nil => rfl
  | cons op ops ih =>
    have htail := ih (faithful_next ha hs (hops op List.mem_cons_self))
      (hable.next hds (hset op List.mem_cons_self))
      (fun o ho => hops o (List.mem_cons_of_mem _ ho))
      fun o ho => hset o (List.mem_cons_of_mem _ ho)
    rw [verdicts, htail, verdict?_eq ha hs (hable.not_unable hds)]
    cases op <;> rfl

/-- **Caches do not show, unless a moment cannot be told.**  Nothing is stored at first and nothing
is preloaded, and the network answers by the source alone.  Each token of a run is compared with
itself in a state in which nothing is stored, and in which it can be told when something expires.

* It gets the same verdict there: the same tokens are valid, and the others are refused for the same
  reason.  Or it gets none, or none that says anything about the token.
* If no cache is poisoned at first, and all spans that the caches are set to can be added to
  everything that the clock shows, it gets the same verdict there. -/
theorem verdicts_eq_fresh (ha : out.Answers f) (hb : fresh.Answers f) (hs : s.Fresh)
    (hs₀ : s₀.Fresh) (hsound : s₀.discovery.poisoned = false)
    (hkeys : ∀ i, s₀.keys.expiryTold (fresh.clock i) = true)
    (hdocuments : ∀ i, s₀.discovery.expiryTold (fresh.clock i) = true) (ops : List Operation)
    (hops : ∀ op ∈ ops, op.preloads = false) :
    List.Forall₂ (fun v v₀ => v = v₀ ∨ IsFaulty v) (s.verdicts out ops)
        (ops.filterMap (s₀.verdict? fresh)) ∧
      (s.discovery.poisoned = false → (∀ d ∈ s.spans ops, ∀ i, (out.clock i).reaches d = true) →
        s.verdicts out ops = ops.filterMap (s₀.verdict? fresh)) := by
  rw [verdict?_eq hb hs₀.faithful (hs₀.not_unable hsound hkeys hdocuments)]
  refine ⟨verdicts_alike ha hs.faithful hops, fun hsound hds => ?_⟩
  refine verdicts_eq_expected ha hs.faithful (hs.able hsound ops) hds hops fun op hop d hd => ?_
  simp only [spans, List.mem_cons, List.mem_filterMap]
  exact Or.inr (Or.inr (Or.inr ⟨op, hop, hd⟩))

/-- A token with an unknown key id is checked twice, with the keys forgotten in between.  No time
passes in the run, and much in the state that it is compared with. -/
theorem verdicts_eq_fresh_twice :
    let place : Url := ⟨"https", some ⟨"", none, some (.domain "my.auth.com"), none⟩,
      .segments ["token_keys"], none, none⟩
    let c : SignatureCheck := ⟨.xsuaa, place, place, []⟩
    let t : Token :=
      ⟨"a.b.AAE", 3, [("alg", .string "ES256"), ("kid", .string "k")], [], [0, 1]⟩
    let empty : Answer := .body (Text.Utf8.bytes "\x7b\x22keys\x22:[]\x7d")
    verdicts ⟨fun _ => 0, 0, fun _ _ => empty⟩ {}
        [.get ⟨place, none⟩, .validate c t, .clear, .validate c t] =
      List.filterMap (verdict? ⟨fun n => n % 1000, 7, fun _ _ => empty⟩ {})
        [.get ⟨place, none⟩, .validate c t, .clear, .validate c t] := by
  intro place c t empty
  have hmod (i : Nat) : i % 1000 ≤ 1000 := Nat.le_of_lt (Nat.mod_lt i (by decide))
  have hkeys (i : Nat) : ({} : State).keys.expiryTold (i % 1000) = true :=
    Instant.reaches_of_le (j := 1000) (by decide +kernel) (hmod i)
  have hdocuments (i : Nat) : ({} : State).discovery.expiryTold (i % 1000) = true :=
    Instant.reaches_of_le (j := 1000) (by decide +kernel) (hmod i)
  refine (@verdicts_eq_fresh (fun _ => empty) ⟨fun _ => 0, 0, fun _ _ => empty⟩
    ⟨fun n => n % 1000, 7, fun _ _ => empty⟩ {} {} (fun _ _ => rfl) (fun _ _ => rfl)
    ⟨rfl, rfl⟩ ⟨rfl, rfl⟩ rfl hkeys hdocuments _ (by decide)).2 rfl fun d hd _ => ?_
  have htold : ∀ d ∈ spans {} [.get ⟨place, none⟩, .validate c t, .clear, .validate c t],
      Instant.reaches 0 d = true := by decide +kernel
  exact htold d hd

/-- **A cache shows if a refresh can never be told to be allowed.**  The least interval between two
refreshes has no end.  A token names a key that is not in the set that is stored, and its check
crashes.  Where nothing is stored, with the same settings, the token is refused. -/
theorem verdict_shows_cache :
    let place : Url := ⟨"https", some ⟨"", none, some (.domain "my.auth.com"), none⟩,
      .segments ["token_keys"], none, none⟩
    let c : SignatureCheck := ⟨.xsuaa, place, place, []⟩
    let t : Token :=
      ⟨"a.b.AAE", 3, [("alg", .string "ES256"), ("kid", .string "k")], [], [0, 1]⟩
    let out : Surroundings :=
      ⟨fun n => n, 0, fun _ _ => .body (Text.Utf8.bytes "\x7b\x22keys\x22:[]\x7d")⟩
    let s : State := { keys := { minRefresh := Duration.longest } }
    let ops : List Operation := [.get ⟨place, none⟩, .validate c t]
    s.verdicts out ops = [.error .crash] ∧
      ops.filterMap (s.verdict? out) = [.ok (.invalid
        ("There is no Json Web Token Key with keyId 'k' and type 'EC' to prove the identity of " ++
          "the Jwt."))] := by
  decide +kernel

end State
end TokenTrust

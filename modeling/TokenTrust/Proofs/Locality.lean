/-
# What a call depends on

An operation sees the caches, and of its surroundings what is still to come: what the clock will
show, and how the next requests will be answered.  It does not see what happened before.  So two
runs that stand level (`State.Level`), with the same caches and the same things ahead of them, go on
with the same results (`Level.replies_eq`), however they came to that point.

Actions are put together from a few simple ones, and each of these is local (`Action.Local`), and so
is what is put together from local actions.
-/
import TokenTrust.Proofs.Operation

namespace TokenTrust

open TokenTrust.Action TokenTrust.Retrieval

/-! ## 1. What is still to come -/

/-- What the surroundings show from a state on. -/
def Surroundings.ahead (out : Surroundings) (s : State) : Surroundings where
  clock i := out.clock (s.readings + i)
  today := out.today
  answer i := out.answer (s.requests.length + i)

/-- Surroundings that show from a state on what others show from their beginning. -/
def Surroundings.postponed (out : Surroundings) (s : State) : Surroundings where
  clock i := out.clock (i - s.readings)
  today := out.today
  answer i := out.answer (i - s.requests.length)

/-- From any state on, the surroundings may show anything. -/
theorem Surroundings.ahead_postponed (out : Surroundings) (s : State) :
    (out.postponed s).ahead s = out := by
  simp only [ahead, postponed, Nat.add_sub_cancel_left]

section

variable {out out' : Surroundings} {s s' : State} (h : out'.ahead s' = out.ahead s)

include h

theorem Surroundings.clock_of_ahead (i : Nat) :
    out'.clock (s'.readings + i) = out.clock (s.readings + i) :=
  congrFun (congrArg Surroundings.clock h) i

theorem Surroundings.answer_of_ahead (i : Nat) :
    out'.answer (s'.requests.length + i) = out.answer (s.requests.length + i) :=
  congrFun (congrArg Surroundings.answer h) i

end

/-- **Two runs stand level**: the caches are the same, and so is what the surroundings show from
there on. -/
structure State.Level (out : Surroundings) (s : State) (out' : Surroundings) (s' : State) :
    Prop where
  keys : s'.keys = s.keys
  discovery : s'.discovery = s.discovery
  ahead : out'.ahead s' = out.ahead s

namespace State.Level

variable {out out' : Surroundings} {s s' : State}

section

variable (h : State.Level out s out' s')

include h

theorem clock (i : Nat) : out'.clock (s'.readings + i) = out.clock (s.readings + i) :=
  Surroundings.clock_of_ahead h.ahead i

theorem today : out'.today = out.today := by
  have htoday : (out'.ahead s').today = (out.ahead s).today := by rw [h.ahead]
  exact htoday

theorem answer (i : Nat) :
    out'.answer (s'.requests.length + i) = out.answer (s.requests.length + i) :=
  Surroundings.answer_of_ahead h.ahead i

end

/-- More was done in both runs, and they still stand level. -/
theorem of_advanced {s₁ s₁' : State} (h : State.Level out s out' s') (readings requests : Nat)
    (hkeys : s₁'.keys = s₁.keys) (hdiscovery : s₁'.discovery = s₁.discovery)
    (hr : s₁.readings = s.readings + readings) (hr' : s₁'.readings = s'.readings + readings)
    (hq : s₁.requests.length = s.requests.length + requests)
    (hq' : s₁'.requests.length = s'.requests.length + requests) :
    State.Level out s₁ out' s₁' := by
  refine ⟨hkeys, hdiscovery, ?_⟩
  simp only [Surroundings.ahead, Surroundings.mk.injEq, hr, hr', hq, hq', Nat.add_assoc]
  exact ⟨funext fun i => h.clock _, h.today, funext fun i => h.answer _⟩

end State.Level

/-! ## 2. Local actions -/

namespace Action

variable {α β : Type}

/-- **An action is local**: in two runs that stand level it has the same result, and they stand
level afterwards. -/
def Local (x : Action α) : Prop :=
  ∀ out s out' s', State.Level out s out' s' →
    (x.run out' s').1 = (x.run out s).1 ∧
      State.Level out (x.run out s).2 out' (x.run out' s').2

namespace Local

/-- What neither reads nor asks nor stores is local if its result is the same. -/
theorem of_still {x : Action α} (hresult : ∀ out s out' s', State.Level out s out' s' →
      (x.run out' s').1 = (x.run out s).1)
    (hkeys : ∀ out s, (x.run out s).2.keys = s.keys)
    (hdiscovery : ∀ out s, (x.run out s).2.discovery = s.discovery)
    (hreadings : ∀ out s, (x.run out s).2.readings = s.readings)
    (hrequests : ∀ out s, (x.run out s).2.requests = s.requests) : Local x := by
  intro out s out' s' h
  refine ⟨hresult out s out' s' h, h.of_advanced 0 0 ?_ ?_ ?_ ?_ ?_ ?_⟩
  · rw [hkeys, hkeys, h.keys]
  · rw [hdiscovery, hdiscovery, h.discovery]
  · exact hreadings out s
  · exact hreadings out' s'
  · rw [hrequests]; rfl
  · rw [hrequests]; rfl

theorem pure (a : α) : Local (Pure.pure a : Action α) :=
  fun _ _ _ _ h => ⟨rfl, h⟩

theorem fail (e : Error) : Local (Action.fail e : Action α) :=
  fun _ _ _ _ h => ⟨rfl, h⟩

theorem crash : Local (Action.crash : Action α) :=
  fun _ _ _ _ h => ⟨rfl, h⟩

theorem insist (b : Bool) : Local (Action.insist b) := by
  cases b with
  | false => exact crash
  | true => exact pure ()

theorem ofExcept (r : Except Error α) : Local (Action.ofExcept r) := by
  cases r with
  | ok a => exact pure a
  | error e => exact fail e

/-- **One local action after another** is local. -/
theorem bind {x : Action α} {f : α → Action β} (hx : Local x) (hf : ∀ a, Local (f a)) :
    Local (x >>= f) := by
  intro out s out' s' h
  obtain ⟨hresult, hlevel⟩ := hx out s out' s' h
  rw [run_bind, run_bind]
  cases hrun : x.run out s with
  | mk r s₁ =>
    cases hrun' : x.run out' s' with
    | mk r' s₁' =>
      rw [hrun, hrun'] at hresult hlevel
      obtain rfl : r' = r := hresult
      cases r' with
      | error e => exact ⟨rfl, hlevel⟩
      | ok a => exact hf a out s₁ out' s₁' hlevel

theorem attempt {x : Action α} (hx : Local x) : Local (Action.attempt x) := by
  intro out s out' s' h
  obtain ⟨hresult, hlevel⟩ := hx out s out' s' h
  rw [run_attempt, run_attempt]
  cases hrun : x.run out s with
  | mk r s₁ =>
    cases hrun' : x.run out' s' with
    | mk r' s₁' =>
      rw [hrun, hrun'] at hresult hlevel
      obtain rfl : r' = r := hresult
      cases r' with
      | ok a => exact ⟨rfl, hlevel⟩
      | error f => cases f <;> exact ⟨rfl, hlevel⟩

theorem logAll (lines : List LogLine) : Local (Action.logAll lines) := by
  refine of_still (fun out s out' s' _ => ?_) ?_ ?_ ?_ ?_
  · rw [run_logAll, run_logAll]
  all_goals
    intro out s
    rw [run_logAll]
  · rfl
  · rfl
  · rfl
  · exact State.logging_requests s lines

theorem log (line : LogLine) : Local (Action.log line) :=
  of_still (fun _ _ _ _ _ => rfl) (fun _ _ => rfl) (fun _ _ => rfl) (fun _ _ => rfl)
    fun _ s => State.logging_requests s [line]

theorem now : Local Action.now := fun _ _ _ _ h =>
  ⟨congrArg Except.ok (h.clock 0), h.of_advanced 1 0 h.keys h.discovery rfl rfl rfl rfl⟩

theorem today : Local Action.today := fun _ _ _ _ h => ⟨congrArg Except.ok h.today, h⟩

theorem keyCache : Local Action.keyCache := fun _ _ _ _ h => ⟨congrArg Except.ok h.keys, h⟩

theorem setKeyCache (c : KeyCache) : Local (Action.setKeyCache c) := fun _ _ _ _ h =>
  ⟨rfl, h.of_advanced 0 0 rfl h.discovery rfl rfl rfl rfl⟩

theorem discoveryCache : Local Action.discoveryCache := fun _ _ _ _ h =>
  ⟨congrArg Except.ok h.discovery, h⟩

theorem setDiscoveryCache (c : DiscoveryCache) : Local (Action.setDiscoveryCache c) :=
  fun _ _ _ _ h => ⟨rfl, h.of_advanced 0 0 h.keys rfl rfl rfl rfl rfl⟩

/-- **A request is local**: it is known by its number among those that are still to come. -/
theorem request (source : KeySource) : Local (Action.request source) := by
  intro out s out' s' h
  have hasked (s : State) :
      (s.record (.requested source)).requests.length = s.requests.length + 1 := by
    simp [State.requests, State.record, Event.source?]
  have hlevel : State.Level out (s.record (.requested source)) out'
      (s'.record (.requested source)) :=
    h.of_advanced 0 1 h.keys h.discovery rfl rfl (hasked s) (hasked s')
  have hanswer : out'.answer s'.requests.length source = out.answer s.requests.length source :=
    congrFun (h.answer 0) source
  rw [run_request, run_request, hanswer]
  cases out.answer s.requests.length source <;> exact ⟨rfl, hlevel⟩

end Local
end Action

/-! ## 3. Retrievals -/

namespace Retrieval

theorem local_orFailure {α : Type} (source : KeySource) (r : Except Error α) :
    Local (orFailure source r) := by
  cases r with
  | ok a => exact .pure a
  | error e => exact .bind (.log _) fun _ => .fail _

theorem local_storeKeys (source : KeySource) (keys : KeySet) : Local (storeKeys source keys) := by
  have date : Local dateKeys :=
    .bind .now fun _ => .bind .keyCache fun _ => .bind (.insist _) fun _ => .pure _
  exact .bind date fun _ => .bind .keyCache fun _ => .bind (.setKeyCache _) fun _ => .pure _

theorem local_fetchKeys (source : KeySource) : Local (fetchKeys source) := by
  refine .bind (.log _) fun _ => .bind (.attempt (.request source)) fun _ =>
    .bind (local_orFailure source _) fun _ => .bind (local_orFailure source _) fun report =>
      .bind (.logAll _) fun _ => ?_
  cases report.keys.isEmpty with
  | true => exact .bind (.log _) fun _ => local_storeKeys source _
  | false => exact local_storeKeys source _

theorem local_lookForKeys (source : KeySource) : Local (lookForKeys source) :=
  .bind .keyCache fun _ => .bind .now fun _ => .pure _

theorem local_getKeys (source : KeySource) : Local (getKeys source) := by
  have again : Local (getKeysExclusively source) := by
    refine .bind (local_lookForKeys source) fun found => ?_
    cases found with
    | some held => exact .pure _
    | none => exact .bind (local_fetchKeys source) fun _ => .pure _
  refine .bind (local_lookForKeys source) fun found => ?_
  cases found with
  | some held => exact .pure _
  | none => exact again

theorem local_lookForRecentKeys (source : KeySource) (requestedAt : Instant) :
    Local (lookForRecentKeys source requestedAt) :=
  .bind .keyCache fun _ => .bind (.insist _) fun _ => .bind .now fun _ => .pure _

theorem local_refreshKeys (source : KeySource) : Local (refreshKeys source) := by
  have begin : Local (beginRefresh source) := by
    refine .bind .now fun requestedAt => .bind (local_lookForRecentKeys source _) fun found => ?_
    cases found with
    | some held => exact .bind (.log _) fun _ => .pure _
    | none => exact .pure _
  have again (requestedAt : Instant) : Local (refreshKeysExclusively source requestedAt) := by
    refine .bind (local_lookForRecentKeys source _) fun found => ?_
    cases found with
    | some held => exact .pure _
    | none => exact local_fetchKeys source
  refine .bind begin fun ⟨requestedAt, found⟩ => ?_
  cases found with
  | some held => exact .pure _
  | none => exact again requestedAt

theorem local_clearKeys : Local clearKeys :=
  .bind .keyCache fun _ => .setKeyCache _

theorem local_getDiscovery (url : Url) : Local (getDiscovery url) := by
  have usable : Local usableDiscovery := by
    refine .bind .discoveryCache fun cache => ?_
    cases cache.poisoned with
    | true => exact .fail _
    | false => exact .pure _
  have store (document : Discovery) : Local (storeDiscovery url document) := by
    refine .bind usable fun cache => .bind .now fun moment => ?_
    cases cache.expiryTold moment with
    | true => exact .setDiscoveryCache _
    | false => exact .bind (.setDiscoveryCache _) fun _ => .crash
  have fetch : Local (fetchDiscovery url) :=
    .bind (.log _) fun _ => .bind (.attempt (.request _)) fun _ => .bind (.ofExcept _) fun _ =>
      .bind (.ofExcept _) fun _ => .bind (store _) fun _ => .pure _
  refine .bind usable fun _ => .bind .now fun now => ?_
  split
  · exact .pure _
  · exact fetch

end Retrieval

namespace SignatureCheck

theorem local_source (c : SignatureCheck) (t : Token) : Local (c.source t) := by
  rw [source]
  cases c.service with
  | xsuaa => exact .ofExcept _
  | ias =>
    exact .bind (local_getDiscovery _) fun _ => .bind (.ofExcept _) fun _ => .pure _

theorem local_keysFor (source : KeySource) (alg : Algorithm) (id : Option String) :
    Local (keysFor source alg id) := by
  refine .bind (local_getKeys source) fun got => ?_
  obtain ⟨held, origin⟩ := got
  dsimp only
  cases held.keys.select alg id with
  | ok k => exact .pure _
  | error e =>
    cases origin with
    | network => exact .fail _
    | cache =>
      cases id with
      | none => exact .fail _
      | some i =>
        refine .bind (.log _) fun _ => .bind (local_refreshKeys source) fun refreshed => ?_
        split
        · exact .fail _
        · exact .pure _

theorem local_check (c : SignatureCheck) (t : Token) : Local (c.check t) :=
  .bind (.ofExcept _) fun alg => .bind (local_source c t) fun source =>
    .bind (local_keysFor source alg _) fun _ => .bind (.ofExcept _) fun _ => .ofExcept _

end SignatureCheck

/-! ## 4. Runs -/

/-- What an operation gives. -/
inductive Gain where
  | nothing
  /-- A set of keys, and perhaps where it came from. -/
  | keys (held : HeldKeys) (origin : Option Origin)
  | document (d : Discovery)
  | verdict (v : Verdict)
  deriving DecidableEq, Repr

namespace State

/-- What an operation gives, or how it fails. -/
def reply (out : Surroundings) (s : State) : Operation → Except Failure Gain
  | .configure _ | .configureDiscovery _ | .clear => .ok .nothing
  | .get source =>
    ((getKeys source).run out s).1.map fun (held, origin) => .keys held (some origin)
  | .refresh source => ((refreshKeys source).run out s).1.map fun held => .keys held none
  | .discover url => ((getDiscovery url).run out s).1.map .document
  | .validate c t => ((Validator.ofAction c.check t).run out s).1.map .verdict

/-- What the operations of a run give, in their order. -/
def replies (out : Surroundings) : State → List Operation → List (Except Failure Gain)
  | _, [] => []
  | s, op :: ops => s.reply out op :: replies out (s.next out op) ops

namespace Level

variable {out out' : Surroundings} {s s' : State}

/-- **An operation gives the same** in two runs that stand level, and leaves them level. -/
theorem next (h : State.Level out s out' s') (op : Operation) :
    s'.reply out' op = s.reply out op ∧ State.Level out (s.next out op) out' (s'.next out' op) := by
  have done {α : Type} {x : Action α} (hx : Local x) (f : α → Gain) :
      (x.run out' s').1.map f = (x.run out s).1.map f ∧
        State.Level out (x.run out s).2 out' (x.run out' s').2 := by
    obtain ⟨hresult, hlevel⟩ := hx out s out' s' h
    exact ⟨congrArg (Except.map f) hresult, hlevel⟩
  cases op with
  | configure x =>
    refine ⟨rfl, h.of_advanced 1 0 ?_ h.discovery rfl rfl rfl rfl⟩
    change s'.keys.configure (out'.clock s'.readings) x = s.keys.configure (out.clock s.readings) x
    rw [h.keys, show out'.clock s'.readings = out.clock s.readings from h.clock 0]
  | configureDiscovery ttl =>
    refine ⟨rfl, h.of_advanced 0 0 h.keys ?_ rfl rfl rfl rfl⟩
    change { s'.discovery with ttl } = { s.discovery with ttl }
    rw [h.discovery]
  | get source => exact done (local_getKeys source) _
  | refresh source => exact done (local_refreshKeys source) _
  | clear => exact ⟨rfl, (local_clearKeys out s out' s' h).2⟩
  | discover url => exact done (local_getDiscovery url) _
  | validate c t =>
    exact done (.bind (.attempt (SignatureCheck.local_check c t)) fun _ => .pure _) _

/-- **Two runs that stand level go on in the same way.** -/
theorem replies_eq (h : State.Level out s out' s') (ops : List Operation) :
    s'.replies out' ops = s.replies out ops ∧
      State.Level out (s.after out ops) out' (s'.after out' ops) := by
  induction ops generalizing s s' with
  | nil => exact ⟨rfl, h⟩
  | cons op ops ih =>
    obtain ⟨hreply, hnext⟩ := h.next op
    obtain ⟨hreplies, hafter⟩ := ih hnext
    exact ⟨by rw [replies, replies, hreply, hreplies], hafter⟩

end Level
end State
end TokenTrust

/-
# Laws of actions

What an action does when it is run, one law for each way of putting actions together, and the order
in which states may follow each other: time goes on (`State.Precedes`).  An action may replace
the caches, but it takes back nothing that happened and no reading of the clock.  So what
happened up to some moment is known by how many requests and readings there had been, and an
action is described by what it adds.
-/
import TokenTrust.Action

namespace TokenTrust

/-! ## 1. States -/

namespace State

/-- The state after more readings of the clock. -/
def advance (s : State) (n : Nat) : State := { s with readings := s.readings + n }

/-- The state after some lines were logged. -/
def logging (s : State) (lines : List LogLine) : State :=
  { s with events := s.events ++ lines.map .logged }

/-- The state in which the answer to a request is awaited that a line announced. -/
def asking (s : State) (line : LogLine) (source : KeySource) : State :=
  (s.logging [line]).record (.requested source)

@[simp] theorem advance_keys (s : State) (n : Nat) : (s.advance n).keys = s.keys := rfl
@[simp] theorem advance_readings (s : State) (n : Nat) :
    (s.advance n).readings = s.readings + n := rfl
@[simp] theorem advance_requests (s : State) (n : Nat) : (s.advance n).requests = s.requests := rfl

@[simp] theorem advance_advance (s : State) (m n : Nat) :
    (s.advance m).advance n = s.advance (m + n) := by
  simp [advance, Nat.add_assoc]

@[simp] theorem logging_keys (s : State) (lines : List LogLine) :
    (s.logging lines).keys = s.keys := rfl
@[simp] theorem logging_readings (s : State) (lines : List LogLine) :
    (s.logging lines).readings = s.readings := rfl

/-- A line is no request. -/
@[simp] theorem logging_requests (s : State) (lines : List LogLine) :
    (s.logging lines).requests = s.requests := by
  have h : (lines.map Event.logged).filterMap Event.source? = [] := by
    simp [List.filterMap_map, Function.comp_def, Event.source?]
  simp [requests, logging, h]

/-- Nor is it a call. -/
@[simp] theorem logging_calls (s : State) (lines : List LogLine) :
    (s.logging lines).calls = s.calls := by
  have h : (lines.map Event.logged).filterMap Event.name? = [] := by
    simp [List.filterMap_map, Function.comp_def, Event.name?]
  simp [calls, logging, h]

@[simp] theorem logging_logging (s : State) (lines lines' : List LogLine) :
    (s.logging lines).logging lines' = s.logging (lines ++ lines') := by
  simp [logging]

@[simp] theorem logging_nil (s : State) : s.logging [] = s := by
  simp [logging]

@[simp] theorem asking_keys (s : State) (line : LogLine) (source : KeySource) :
    (s.asking line source).keys = s.keys := rfl
@[simp] theorem asking_readings (s : State) (line : LogLine) (source : KeySource) :
    (s.asking line source).readings = s.readings := rfl

@[simp] theorem asking_requests (s : State) (line : LogLine) (source : KeySource) :
    (s.asking line source).requests = s.requests ++ [source] := by
  have h : (s.logging [line]).requests = s.requests := logging_requests s [line]
  simp only [requests] at h
  simp [asking, record, requests, h, Event.source?]

end State

/-! ## 2. Running -/

namespace Action

variable {α β : Type} (out : Surroundings) (s : State)

theorem run_pure (a : α) : (pure a : Action α).run out s = (.ok a, s) := rfl

theorem run_bind (x : Action α) (f : α → Action β) :
    (x >>= f).run out s = match x.run out s with
      | (.ok a, s') => (f a).run out s'
      | (.error e, s') => (.error e, s') := rfl

theorem run_insist (b : Bool) :
    (insist b).run out s = if b then (.ok (), s) else (.error .crash, s) := by
  cases b <;> rfl

theorem run_fail (e : Error) : (fail e : Action α).run out s = (.error (.error e), s) := rfl

/-- A value or an error is the result, and nothing is done. -/
theorem run_ofExcept (r : Except Error α) :
    (ofExcept r).run out s = (r.mapError .error, s) := by
  cases r with
  | error e => rfl
  | ok a => rfl

theorem run_attempt (x : Action α) :
    (attempt x).run out s = match x.run out s with
      | (.ok a, s') => (.ok (.ok a), s')
      | (.error (.error e), s') => (.ok (.error e), s')
      | (.error .crash, s') => (.error .crash, s') := rfl

theorem run_log (line : LogLine) : (log line).run out s = (.ok (), s.logging [line]) := rfl

theorem run_logAll (lines : List LogLine) :
    (logAll lines).run out s = (.ok (), s.logging lines) := by
  induction lines generalizing s with
  | nil => rw [State.logging_nil]; rfl
  | cons line lines ih =>
    have h : (logAll (line :: lines)).run out s = (logAll lines).run out (s.logging [line]) := rfl
    rw [h, ih, State.logging_logging]
    rfl

theorem run_now : now.run out s = (.ok (out.clock s.readings), s.advance 1) := rfl

theorem run_request (source : KeySource) :
    (request source).run out s = match out.answer s.requests.length source with
      | .body octets => (.ok octets, s.record (.requested source))
      | .failure e => (.error (.error e), s.record (.requested source))
      | .crash => (.error .crash, s.record (.requested source)) := rfl

theorem run_keyCache : keyCache.run out s = (.ok s.keys, s) := rfl

theorem run_discoveryCache : discoveryCache.run out s = (.ok s.discovery, s) := rfl

end Action

/-! ## 3. Time goes on -/

/-- A state may come after another one: nothing that happened is missing. -/
structure State.Precedes (s s' : State) : Prop where
  events : s.events <+: s'.events
  readings : s.readings ≤ s'.readings

namespace State

theorem Precedes.refl (s : State) : s.Precedes s :=
  ⟨List.prefix_refl _, Nat.le_refl _⟩

theorem Precedes.trans {s s' s'' : State} (h : s.Precedes s') (h' : s'.Precedes s'') :
    s.Precedes s'' :=
  ⟨h.events.trans h'.events, Nat.le_trans h.readings h'.readings⟩

/-- Asking comes later than what was there before. -/
theorem precedes_asking (s : State) (line : LogLine) (source : KeySource) :
    s.Precedes (s.asking line source) :=
  ⟨by simp only [asking, record, logging, List.append_assoc, List.prefix_append], Nat.le_refl _⟩

/-- The requests of a state are the first ones of every later state. -/
theorem Precedes.requests {s s' : State} (h : s.Precedes s') : s.requests <+: s'.requests :=
  h.events.filterMap _

/-- A request keeps its number. -/
theorem Precedes.getElem?_requests {s s' : State} (h : s.Precedes s') {n : Nat}
    {source : KeySource} (hr : s.requests[n]? = some source) : s'.requests[n]? = some source := by
  obtain ⟨hlen, hs⟩ := List.getElem?_eq_some_iff.mp hr
  rw [List.prefix_iff_getElem?.mp h.requests n hlen, hs]

end State

end TokenTrust

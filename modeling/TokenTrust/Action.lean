/-
# Actions

What the library does with the outside world, as a function.  An action gets its surroundings (a
clock, the date, and a network that answers requests) and the state it starts from, and returns a
result and the state it ends in.

The surroundings of one action are arbitrary: the clock may show anything at each reading, and
the network may answer each request differently each time.  What an action does to the outside
is recorded as a list of events, in their order: lines that were logged, requests that were made,
and names that were called.

An action can fail in two ways.  An error is a value that is reported; a crash, of the network
code or where a moment is asked for that cannot be told, ends everything that is under way, and
nothing that was done before it is taken back.
-/
import TokenTrust.Cache.Discovery
import TokenTrust.Cache.Keys

namespace TokenTrust

/-! ## 1. The outside -/

/-- How a request ends. -/
inductive Answer where
  | body (octets : List UInt8)
  | failure (error : Error)
  | crash
  deriving DecidableEq, Repr

/-- The outside of an action.  A request names a URL and perhaps a tenant, as a source of keys
does. -/
structure Surroundings where
  /-- What the clock that measures spans shows, by the number of the reading. -/
  clock : Nat → Instant
  /-- The date, in seconds since the beginning of 1970. -/
  today : Int
  /-- How a request is answered, by the number of the request. -/
  answer : Nat → KeySource → Answer

/-! ## 2. The inside -/

/-- What an action leaves a trace of. -/
inductive Event where
  | logged (line : LogLine)
  | requested (source : KeySource)
  | called (name : String)
  deriving DecidableEq, Repr

/-- The line of an event, if it is one. -/
def Event.line? : Event → Option LogLine
  | logged l => some l
  | _ => none

/-- The source of an event, if it is a request. -/
def Event.source? : Event → Option KeySource
  | requested s => some s
  | _ => none

/-- The name of an event, if it is a call. -/
def Event.name? : Event → Option String
  | called n => some n
  | _ => none

/-- What actions change. -/
structure State where
  keys : KeyCache := {}
  discovery : DiscoveryCache := {}
  /-- How often the clock was read. -/
  readings : Nat := 0
  /-- What happened, in its order. -/
  events : List Event := []
  deriving DecidableEq, Repr

namespace State

/-- The lines that were logged. -/
def log (s : State) : List LogLine := s.events.filterMap Event.line?

/-- The requests that were made. -/
def requests (s : State) : List KeySource := s.events.filterMap Event.source?

/-- The names that were called. -/
def calls (s : State) : List String := s.events.filterMap Event.name?

/-- The state with one event more. -/
def record (s : State) (e : Event) : State := { s with events := s.events ++ [e] }

end State

/-- Why an action has no result. -/
inductive Failure where
  | error (error : Error)
  | crash
  deriving DecidableEq, Repr

/-! ## 3. Actions -/

/-- What is done with the outside world. -/
def Action (α : Type) : Type :=
  Surroundings → State → Except Failure α × State

namespace Action

variable {α β : Type}

/-- Does an action in some surroundings, from a state. -/
def run (x : Action α) (out : Surroundings) (s : State) : Except Failure α × State :=
  x out s

instance : Monad Action where
  pure a := fun _ s => (.ok a, s)
  bind x f := fun out s =>
    match x out s with
    | (.ok a, s') => f a out s'
    | (.error e, s') => (.error e, s')

/-- Fails with an error. -/
def fail (e : Error) : Action α := fun _ s => (.error (.error e), s)

/-- Crashes. -/
def crash : Action α := fun _ s => (.error .crash, s)

/-- Goes on if a condition holds, and crashes if it does not. -/
def insist (b : Bool) : Action Unit :=
  if b then pure () else crash

/-- The value, or failure with the error. -/
def ofExcept : Except Error α → Action α
  | .ok a => pure a
  | .error e => fail e

/-- The result of an action with its error as a value.  A crash goes on. -/
def attempt (x : Action α) : Action (Except Error α) := fun out s =>
  match x.run out s with
  | (.ok a, s') => (.ok (.ok a), s')
  | (.error (.error e), s') => (.ok (.error e), s')
  | (.error .crash, s') => (.error .crash, s')

/-- Records an event. -/
def record (e : Event) : Action Unit := fun _ s => (.ok (), s.record e)

/-- Logs a line. -/
def log (line : LogLine) : Action Unit := record (.logged line)

/-- Logs some lines. -/
def logAll (lines : List LogLine) : Action Unit := lines.forM log

/-- Calls a name. -/
def call (name : String) : Action Unit := record (.called name)

/-- Reads the clock that measures spans. -/
def now : Action Instant := fun out s =>
  (.ok (out.clock s.readings), { s with readings := s.readings + 1 })

/-- The date. -/
def today : Action Int := fun out s => (.ok out.today, s)

/-- Asks the network for a document. -/
def request (source : KeySource) : Action (List UInt8) := fun out s =>
  let s' := s.record (.requested source)
  match out.answer s.requests.length source with
  | .body octets => (.ok octets, s')
  | .failure e => (.error (.error e), s')
  | .crash => (.error .crash, s')

/-- The cache of key sets. -/
def keyCache : Action KeyCache := fun _ s => (.ok s.keys, s)

/-- Replaces the cache of key sets. -/
def setKeyCache (c : KeyCache) : Action Unit := fun _ s => (.ok (), { s with keys := c })

/-- The cache of discovery documents. -/
def discoveryCache : Action DiscoveryCache := fun _ s => (.ok s.discovery, s)

/-- Replaces the cache of discovery documents. -/
def setDiscoveryCache (c : DiscoveryCache) : Action Unit := fun _ s =>
  (.ok (), { s with discovery := c })

end Action
end TokenTrust

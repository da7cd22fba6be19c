/-
# Callers at the same time

Any number of callers who get and refresh keys, forget them or count them, each at its own pace.
`Retrieval.Keys` says what one caller does from beginning to end; here the same is cut into steps,
and between two steps of one caller the others may do any number of theirs.

Three kinds of locks keep the callers apart.

* The entries of the cache may be read by many callers, or be changed by one.
* Each source that keys are being fetched from has a gate, and one caller at a time is let through.
  A caller looks at the entries before it queues at the gate and again when it has been let through.
* The gates are listed in a register, which one caller at a time may use.  A gate is put up by the
  first caller who needs it.  It is removed by a caller who has come back from it and finds that
  nobody else has a handle of it: then the handles are two, the caller's own and that of the
  register.

A lock is taken in one step and given back in another; what is done under the lock is done in
between or in the step that gives it back.  A caller who crashes, in the network code or where a
moment is asked for that cannot be told, gives back what it keeps, and does not come to the register
any more.
-/
import TokenTrust.Retrieval.Keys

namespace TokenTrust
namespace Retrieval

open TokenTrust.Action

/-! ## 1. A fetch in pieces -/

/-- Asks the network for a document.  The result is the number of the request. -/
def send (source : KeySource) : Action Nat := fun _ s =>
  (.ok s.requests.length, s.record (.requested source))

/-- The document that a request was answered with. -/
def receive (source : KeySource) (number : Nat) : Action (List UInt8) := fun out s =>
  match out.answer number source with
  | .body octets => (.ok octets, s)
  | .failure e => (.error (.error e), s)
  | .crash => (.error .crash, s)

/-- The beginning of a fetch. -/
def askForKeys (source : KeySource) : Action Nat := do
  log (.debug ("fetching json web keys from " ++ source.text))
  send source

/-- The keys that a request was answered with. -/
def readKeys (source : KeySource) (number : Nat) : Action KeySet := do
  let body ← orFailure source (← attempt (receive source number))
  let report ← orFailure source ((KeyDocument.parse body).mapError .json)
  logAll report.log
  if report.keys.isEmpty then
    log (.warn ("key set from " ++ source.text ++ " contains no usable keys"))
  return report.keys

/-- The end of a fetch: what was read at some moment is stored. -/
def depositKeys (source : KeySource) (keys : KeySet) (moment : Instant) : Action HeldKeys := do
  let (held, cache) := (← keyCache).store source keys moment
  setKeyCache cache
  return held

/-! ## 2. What callers want -/

/-- What a caller may come for. -/
inductive Errand where
  | get (source : KeySource)
  | refresh (source : KeySource)
  | clear
  /-- How many entries there are. -/
  | size
  deriving DecidableEq, Repr

/-- The keys that a caller wants. -/
structure Wanted where
  source : KeySource
  /-- When a refresh was requested, if it is one. -/
  requestedAt : Option Instant
  deriving DecidableEq, Repr

namespace Wanted

/-- Looks for a set that will do. -/
def look (w : Wanted) : Action (Option HeldKeys) :=
  match w.requestedAt with
  | none => lookForKeys w.source
  | some requestedAt => lookForRecentKeys w.source requestedAt

/-- The first look.  It is logged when it spares a refresh the request. -/
def lookFirst (w : Wanted) : Action (Option HeldKeys) := do
  let found ← w.look
  if w.requestedAt.isSome && found.isSome then log (limitedLine w.source)
  return found

end Wanted

/-- What a caller returns who wanted keys. -/
abbrev Gotten := Except Failure (HeldKeys × Origin)

/-- What a caller returns. -/
inductive Outcome where
  | keys (result : Gotten)
  | cleared
  | size (n : Nat)

/-! ## 3. Where callers are -/

abbrev Gate := Nat

/-- Where a caller is who has a handle of a gate. -/
inductive Phase where
  | queued
  /-- Has been let through. -/
  | admitted
  /-- Reads the entries. -/
  | checking
  /-- Found nothing that will do. -/
  | bound
  /-- Awaits the answer to a request. -/
  | fetching (number : Nat)
  /-- Has read the answer. -/
  | carrying (number : Nat) (keys : KeySet)
  /-- Has read the clock too, and can tell when the keys expire. -/
  | dated (number : Nat) (keys : KeySet) (moment : Instant)
  /-- May change the entries. -/
  | storing (number : Nat) (keys : KeySet) (moment : Instant)
  /-- Has a result, and the gate is still closed behind it. -/
  | done (result : Gotten)
  | leaving (result : Gotten)
  /-- May use the register, to see whether anybody else needs the gate. -/
  | inspecting (result : Gotten)
  /-- May use the register, and has seen that nobody else does. -/
  | removing (result : Gotten)
  /-- Only the handle is left to be given back. -/
  | parting (result : Gotten)

/-- Where a caller is. -/
inductive Place where
  | idle
  /-- Waits for the entries. -/
  | asking (w : Wanted)
  /-- Reads the entries. -/
  | looking (w : Wanted)
  /-- Found nothing that will do, and waits for the register. -/
  | unhelped (w : Wanted)
  /-- May use the register, to find the gate or put one up. -/
  | registering (w : Wanted)
  /-- May use the register, and has found the gate in it. -/
  | enrolling (w : Wanted) (g : Gate)
  | inside (w : Wanted) (g : Gate) (phase : Phase)
  /-- Waits for the entries, to remove them. -/
  | clearing
  | emptying
  /-- Waits for the entries, to count them. -/
  | measuring
  | counting
  | returned (o : Outcome)

namespace Place

/-- Whether a caller has nothing to do. -/
def isFree : Place → Bool
  | idle | returned _ => true
  | _ => false

/-- Where a refresh begins. -/
def ofRequested (source : KeySource) : Except Failure Instant → Place
  | .ok requestedAt => .asking ⟨source, some requestedAt⟩
  | .error f => .returned (.keys (.error f))

/-- Where a caller goes from its first look. -/
def ofLook (w : Wanted) : Except Failure (Option HeldKeys) → Place
  | .ok (some held) => .returned (.keys (.ok (held, .cache)))
  | .ok none => .unhelped w
  | .error f => .returned (.keys (.error f))

end Place

namespace Phase

/-- Where a caller goes from its second look. -/
def ofLook : Except Failure (Option HeldKeys) → Phase
  | .ok (some held) => .done (.ok (held, .cache))
  | .ok none => .bound
  | .error f => .done (.error f)

def ofAsked : Except Failure Nat → Phase
  | .ok number => .fetching number
  | .error f => .done (.error f)

/-- Where a caller goes when the answer has come. -/
def ofRead (number : Nat) : Except Failure KeySet → Phase
  | .ok keys => .carrying number keys
  | .error f => .done (.error f)

def ofMoment (number : Nat) (keys : KeySet) : Except Failure Instant → Phase
  | .ok moment => .dated number keys moment
  | .error f => .done (.error f)

def ofStored : Except Failure HeldKeys → Phase
  | .ok held => .done (.ok (held, .network))
  | .error f => .done (.error f)

/-- Where a caller goes from the gate.  After a crash nothing is done but what has to be. -/
def ofDone : Gotten → Phase
  | .error .crash => .parting (.error .crash)
  | r => .leaving r

end Phase

/-! ## 4. Callers and what they share -/

/-- `n` callers, and what they share. -/
structure Crowd (n : Nat) where
  state : State
  place : Fin n → Place := fun _ => .idle
  /-- The gates that are in use, by their sources. -/
  register : List (KeySource × Gate) := []
  /-- Who may use the register. -/
  registrar : Option (Fin n) := none
  /-- Who is through a gate. -/
  keeper : Gate → Option (Fin n) := fun _ => none
  /-- How many handles of a gate there are. -/
  handles : Gate → Nat := fun _ => 0
  /-- The next gate that is put up. -/
  nextGate : Gate := 0
  /-- How many callers read the entries. -/
  readers : Nat := 0
  /-- Whether a caller may change the entries. -/
  writing : Bool := false

namespace Crowd

variable {n : Nat}

/-- The crowd with one caller at another place. -/
def put (c : Crowd n) (t : Fin n) (p : Place) : Crowd n :=
  { c with place := fun u => if u = t then p else c.place u }

/-- Does an action.  The caller goes on from its result. -/
def doing {α : Type} (c : Crowd n) (out : Surroundings) (t : Fin n) (x : Action α)
    (goOn : Except Failure α → Place) : Crowd n :=
  let (r, state) := x.run out c.state
  { c with state }.put t (goOn r)

/-! ### The entries -/

def takeToRead (c : Crowd n) : Option (Crowd n) :=
  if c.writing then none else some { c with readers := c.readers + 1 }

def endReading (c : Crowd n) : Crowd n := { c with readers := c.readers - 1 }

def takeToWrite (c : Crowd n) : Option (Crowd n) :=
  if c.writing || c.readers != 0 then none else some { c with writing := true }

def endWriting (c : Crowd n) : Crowd n := { c with writing := false }

/-! ### The register -/

def takeRegister (c : Crowd n) (t : Fin n) : Option (Crowd n) :=
  if c.registrar.isSome then none else some { c with registrar := some t }

def freeRegister (c : Crowd n) : Crowd n := { c with registrar := none }

/-- The gate of a source. -/
def gate? (c : Crowd n) (source : KeySource) : Option Gate :=
  (c.register.find? (·.1 == source)).map (·.2)

/-- Makes a number of handles the number of a gate. -/
def setHandles (c : Crowd n) (g : Gate) (k : Nat) : Crowd n :=
  { c with handles := fun g' => if g' = g then k else c.handles g' }

/-- Puts up a gate.  The register has a handle of it. -/
def putUp (c : Crowd n) (source : KeySource) : Crowd n :=
  { c with
    register := c.register ++ [(source, c.nextGate)]
    nextGate := c.nextGate + 1 }.setHandles c.nextGate 1

/-- Removes a gate, and the handle that the register has. -/
def remove (c : Crowd n) (source : KeySource) (g : Gate) : Crowd n :=
  { c with register := c.register.eraseP (·.1 == source) }.setHandles g (c.handles g - 1)

/-- Finds the gate of a source or puts one up. -/
def enroll (c : Crowd n) (t : Fin n) (w : Wanted) : Crowd n :=
  match c.gate? w.source with
  | some g => c.put t (.enrolling w g)
  | none => (c.putUp w.source).put t (.enrolling w c.nextGate)

/-! ### The gates -/

def setKeeper (c : Crowd n) (g : Gate) (k : Option (Fin n)) : Crowd n :=
  { c with keeper := fun g' => if g' = g then k else c.keeper g' }

def takeGate (c : Crowd n) (t : Fin n) (g : Gate) : Option (Crowd n) :=
  if (c.keeper g).isSome then none else some (c.setKeeper g (some t))

/-- Looks whether anybody but the register and the caller has a handle of the gate. -/
def inspect (c : Crowd n) (t : Fin n) (w : Wanted) (g : Gate) (r : Gotten) : Crowd n :=
  if c.gate? w.source = some g ∧ c.handles g = 2 then c.put t (.inside w g (.removing r))
  else c.freeRegister.put t (.inside w g (.parting r))

/-! ## 5. Steps -/

/-- The next step of a caller with a handle, if it can take it. -/
def stepInside (out : Surroundings) (c : Crowd n) (t : Fin n) (w : Wanted) (g : Gate) :
    Phase → Option (Crowd n)
  | .queued => (c.takeGate t g).map (·.put t (.inside w g .admitted))
  | .admitted => c.takeToRead.map (·.put t (.inside w g .checking))
  | .checking => some (c.endReading.doing out t w.look fun r => .inside w g (.ofLook r))
  | .bound => some (c.doing out t (askForKeys w.source) fun r => .inside w g (.ofAsked r))
  | .fetching k => some (c.doing out t (readKeys w.source k) fun r => .inside w g (.ofRead k r))
  | .carrying k keys => some (c.doing out t dateKeys fun r => .inside w g (.ofMoment k keys r))
  | .dated k keys moment =>
    c.takeToWrite.map (·.put t (.inside w g (.storing k keys moment)))
  | .storing _ keys moment =>
    some (c.endWriting.doing out t (depositKeys w.source keys moment)
      fun r => .inside w g (.ofStored r))
  | .done r => some ((c.setKeeper g none).put t (.inside w g (.ofDone r)))
  | .leaving r => (c.takeRegister t).map (·.put t (.inside w g (.inspecting r)))
  | .inspecting r => some (c.inspect t w g r)
  | .removing r => some ((c.remove w.source g).freeRegister.put t (.inside w g (.parting r)))
  | .parting r => some ((c.setHandles g (c.handles g - 1)).put t (.returned (.keys r)))

/-- The next step of a caller, if it has an errand and can take the step. -/
def step (out : Surroundings) (c : Crowd n) (t : Fin n) : Option (Crowd n) :=
  match c.place t with
  | .idle => none
  | .asking w => c.takeToRead.map (·.put t (.looking w))
  | .looking w => some (c.endReading.doing out t w.lookFirst (.ofLook w))
  | .unhelped w => (c.takeRegister t).map (·.put t (.registering w))
  | .registering w => some (c.enroll t w)
  | .enrolling w g =>
    some ((c.setHandles g (c.handles g + 1)).freeRegister.put t (.inside w g .queued))
  | .inside w g phase => stepInside out c t w g phase
  | .clearing => c.takeToWrite.map (·.put t .emptying)
  | .emptying => some (c.endWriting.doing out t clearKeys fun _ => .returned .cleared)
  | .measuring => c.takeToRead.map (·.put t .counting)
  | .counting => some (c.endReading.put t (.returned (.size c.state.keys.size)))
  | .returned _ => none

/-- A caller sets out. -/
def setOut (out : Surroundings) (c : Crowd n) (t : Fin n) : Errand → Crowd n
  | .get source => c.put t (.asking ⟨source, none⟩)
  | .refresh source => c.doing out t now (.ofRequested source)
  | .clear => c.put t .clearing
  | .size => c.put t .measuring

/-- A caller sets out, if it has nothing else to do. -/
def start (out : Surroundings) (c : Crowd n) (t : Fin n) (errand : Errand) : Option (Crowd n) :=
  if (c.place t).isFree then some (c.setOut out t errand) else none

/-! ## 6. Runs -/

/-- What can happen next. -/
inductive Move (n : Nat) where
  | start (t : Fin n) (errand : Errand)
  | go (t : Fin n)
  deriving DecidableEq, Repr

/-- The crowd after a move.  A move that nobody can make changes nothing. -/
def next (out : Surroundings) (c : Crowd n) : Move n → Crowd n
  | .start t errand => (c.start out t errand).getD c
  | .go t => (c.step out t).getD c

/-- The crowd after some moves. -/
def after (out : Surroundings) (c : Crowd n) (moves : List (Move n)) : Crowd n :=
  moves.foldl (next out) c

end Crowd
end Retrieval
end TokenTrust

/-
# One fetch at a time

Any number of callers get and refresh keys, forget them and count them, in whatever order their
steps come, and whatever the network answers.  Then no two of them are fetching from the same source
at the same time, and the entry of a source is never replaced by one that was requested before it.

The first is what gates are for: who fetches relies on the gate of the source, so everybody who
fetches from one source is behind the same gate, and a gate is closed behind one caller only
(`Crowd.Sound`).  The second follows from it.  Requests are numbered in the order in which they are
made.  While a caller is fetching, nobody stores keys of that source, so whatever was stored for it
was requested before (`Ordered.later`), and that holds until the caller stores what it has fetched.
-/
import TokenTrust.Proofs.Gates

namespace TokenTrust
namespace Retrieval

open TokenTrust.Action

/-! ## 1. Who fetches -/

/-- The number of the request that a caller has made and whose answer it has not stored yet. -/
def Phase.request? : Phase → Option Nat
  | .fetching k | .carrying k _ | .dated k _ _ | .storing k _ _ => some k
  | _ => none

/-- The source that a caller fetches from, and the number of the request. -/
def Place.fetches? : Place → Option (KeySource × Nat)
  | .inside w _ phase => phase.request?.map fun k => (w.source, k)
  | _ => none

theorem Place.view_of_fetches? {p : Place} {source : KeySource} {k : Nat}
    (h : p.fetches? = some (source, k)) : ∃ g, p.view = .through source g := by
  cases p with
  | inside w g phase =>
    obtain ⟨k', hk, heq⟩ := Option.map_eq_some_iff.mp h
    obtain ⟨rfl, -⟩ := Prod.mk.inj heq
    refine ⟨g, ?_⟩
    cases phase with
    | fetching => rfl
    | carrying => rfl
    | dated => rfl
    | storing => rfl
    | _ => exact nomatch hk
  | _ => exact nomatch h

/-! ## 2. Actions that neither ask nor store -/

/-- An action leaves the entries alone and makes no request. -/
def Calm {α : Type} (x : Action α) : Prop :=
  ∀ out s, (x.run out s).2.keys = s.keys ∧ (x.run out s).2.requests = s.requests

theorem calm_dateKeys : Calm dateKeys := by
  intro out s
  rw [run_dateKeys]
  split
  · exact ⟨rfl, rfl⟩
  · exact ⟨rfl, rfl⟩

theorem calm_look (w : Wanted) : Calm w.look := by
  intro out s
  rw [run_look]
  split
  · exact ⟨rfl, rfl⟩
  · exact ⟨rfl, rfl⟩

theorem calm_lookFirst (w : Wanted) : Calm w.lookFirst := by
  intro out s
  have hlook := calm_look w out s
  rw [Wanted.lookFirst, run_bind]
  cases hrun : w.look.run out s with
  | mk r s' =>
    rw [hrun] at hlook
    cases r with
    | error f => exact hlook
    | ok found =>
      simp only
      split
      · exact ⟨hlook.1, (State.logging_requests s' [limitedLine w.source]).trans hlook.2⟩
      · exact hlook

theorem calm_readKeys (source : KeySource) (k : Nat) : Calm (readKeys source k) := by
  intro out s
  rw [run_readKeys]
  cases keysIn (out.answer k source) with
  | ok report => exact ⟨rfl, State.logging_requests _ _⟩
  | error f =>
    cases f with
    | crash => exact ⟨rfl, rfl⟩
    | error e => exact ⟨rfl, State.logging_requests _ _⟩

/-! ## 3. What is stored -/

/-- What is stored: for which source, of which request, and the entry. -/
structure Stored where
  source : KeySource
  number : Nat
  entry : KeyCache.Entry

/-- What a caller stores in a cache in its next step, if it stores anything. -/
def Place.stores? (cache : KeyCache) : Place → Option Stored
  | .inside w _ (.storing k keys moment) =>
    some ⟨w.source, k, ⟨cache.nextSerial, keys⟩, moment, moment + cache.ttl⟩
  | _ => none

namespace Crowd

variable {n : Nat} {c c' : Crowd n} {t u : Fin n} {p : Place} {source : KeySource} {k : Nat}
  {out : Surroundings}

/-- **A caller is fetching** from a source: it has made a request, with that number, and has not
stored yet what it was answered. -/
def Fetches (c : Crowd n) (t : Fin n) (source : KeySource) (k : Nat) : Prop :=
  (c.place t).fetches? = some (source, k)

/-- **Nobody else fetches from the source that a caller fetches from.** -/
theorem Sound.eq_of_fetches (hs : c.Sound) {k' : Nat} (ht : c.Fetches t source k)
    (hu : c.Fetches u source k') : t = u := by
  obtain ⟨g, hg⟩ := Place.view_of_fetches? ht
  obtain ⟨g', hg'⟩ := Place.view_of_fetches? hu
  exact hs.eq_of_through hg hg'

/-- What a move stores, if it stores anything. -/
def stored? (c : Crowd n) : Move n → Option Stored
  | .start _ _ => none
  | .go t => (c.place t).stores? c.state.keys

/-- Who is not fetching has nothing to store. -/
theorem stored?_eq_none (h : (c.place t).fetches? = none) : c.stored? (.go t) = none := by
  rw [stored?]
  cases ht : c.place t with
  | inside w g phase =>
    rw [ht] at h
    cases phase with
    | storing => exact nomatch h
    | _ => rfl
  | _ => rfl

/-- What some moves store, in their order. -/
def stored (out : Surroundings) (c : Crowd n) : List (Move n) → List Stored
  | [] => []
  | move :: moves => (c.stored? move).toList ++ stored out (c.next out move) moves

theorem stored_concat (c : Crowd n) (moves : List (Move n)) (move : Move n) :
    c.stored out (moves ++ [move]) =
      c.stored out moves ++ ((c.after out moves).stored? move).toList := by
  induction moves generalizing c with
  | nil => simp [stored, after]
  | cons m moves ih =>
    rw [List.cons_append, stored, stored, ih, List.append_assoc]
    rfl

/-! ## 4. What a move does -/

/-- What a move does to the entries, and to who is fetching. -/
inductive Moving (c : Crowd n) (move : Move n) (c' : Crowd n) : Prop
  /-- Nothing is asked and nothing is stored; perhaps everything is forgotten. -/
  | still (hstored : c.stored? move = none)
    (hkeys : c'.state.keys = c.state.keys ∨ c'.state.keys.entries = [])
    (hrequests : c'.state.requests = c.state.requests)
    (hfetches : ∀ u source k, c'.Fetches u source k → c.Fetches u source k)
  /-- A request is made. -/
  | asked {source : KeySource} (hstored : c.stored? move = none)
    (hkeys : c'.state.keys = c.state.keys)
    (hrequests : c'.state.requests = c.state.requests ++ [source])
    (hfetches : ∀ u source' k, c'.Fetches u source' k →
      c.Fetches u source' k ∨ (source' = source ∧ k = c.state.requests.length))
  /-- What was fetched is stored. -/
  | stored {t : Fin n} {b : Stored} (hstored : c.stored? move = some b)
    (hfrom : c.Fetches t b.source b.number)
    (hkeys : c'.state.keys = (c.state.keys.store b.source b.entry.held.keys b.entry.storedAt).2)
    (hentry : b.entry = ⟨⟨c.state.keys.nextSerial, b.entry.held.keys⟩, b.entry.storedAt,
      b.entry.storedAt + c.state.keys.ttl⟩)
    (hrequests : c'.state.requests = c.state.requests)
    (hfetches : ∀ u source k, c'.Fetches u source k → c.Fetches u source k ∧ u ≠ t)

/-- Only the caller who moves may begin or end a fetch. -/
theorem fetches_of_put (hplace : c'.place = (c.put t p).place) (h : c'.Fetches u source k) :
    (u = t ∧ p.fetches? = some (source, k)) ∨ (u ≠ t ∧ c.Fetches u source k) := by
  rw [Fetches, hplace] at h
  by_cases hut : u = t
  · subst hut
    rw [put_place_self] at h
    exact Or.inl ⟨rfl, h⟩
  · rw [put_place_of_ne hut] at h
    exact Or.inr ⟨hut, h⟩

/-- A caller goes to a place where it fetches no more than before. -/
theorem Moving.of_put (hplace : c'.place = (c.put t p).place)
    (hp : p.fetches? = none ∨ p.fetches? = (c.place t).fetches?)
    (hstored : c.stored? (.go t) = none)
    (hkeys : c'.state.keys = c.state.keys ∨ c'.state.keys.entries = [])
    (hrequests : c'.state.requests = c.state.requests) : Moving c (.go t) c' := by
  refine .still hstored hkeys hrequests fun u source k hu => ?_
  rcases fetches_of_put hplace hu with ⟨rfl, hf⟩ | ⟨-, hf⟩
  · rcases hp with hp | hp
    · rw [hp] at hf
      exact nomatch hf
    · exact hp.symm.trans hf
  · exact hf

/-- Neither does a caller who does something calm. -/
theorem Moving.of_doing {α : Type} {d : Crowd n} {x : Action α} (hx : Calm x)
    {goOn : Except Failure α → Place} (hplace : d.place = c.place) (hstate : d.state = c.state)
    (hp : ∀ r, (goOn r).fetches? = none ∨ (goOn r).fetches? = (c.place t).fetches?)
    (hstored : c.stored? (.go t) = none) : Moving c (.go t) (d.doing out t x goOn) := by
  obtain ⟨hkeys, hrequests⟩ := hx out d.state
  refine .of_put (p := goOn (x.run out d.state).1) ?_ (hp _) hstored (Or.inl ?_) ?_
  · simp only [Crowd.doing, Crowd.put, hplace]
  · exact hkeys.trans (by rw [hstate])
  · exact hrequests.trans (by rw [hstate])

/-- Neither does a caller who takes a lock. -/
theorem Moving.of_take {d : Option (Crowd n)}
    (hd : ∀ c₁, d = some c₁ → c₁.place = c.place ∧ c₁.state = c.state)
    (hp : p.fetches? = none ∨ p.fetches? = (c.place t).fetches?)
    (hstored : c.stored? (.go t) = none) (h : d.map (·.put t p) = some c') :
    Moving c (.go t) c' := by
  obtain ⟨c₁, hc₁, rfl⟩ := Option.map_eq_some_iff.mp h
  obtain ⟨hplace, hstate⟩ := hd c₁ hc₁
  refine .of_put (p := p) ?_ hp hstored (Or.inl ?_) ?_
  · simp only [Crowd.put, hplace]
  · exact congrArg State.keys hstate
  · exact congrArg State.requests hstate

/-! Taking a lock does nothing else. -/

theorem of_takeToRead (d : Crowd n) (h : c.takeToRead = some d) :
    d.place = c.place ∧ d.state = c.state := by
  obtain ⟨-, rfl⟩ := takeToRead_eq_some_iff.mp h
  exact ⟨rfl, rfl⟩

theorem of_takeToWrite (d : Crowd n) (h : c.takeToWrite = some d) :
    d.place = c.place ∧ d.state = c.state := by
  obtain ⟨-, rfl⟩ := takeToWrite_eq_some_iff.mp h
  exact ⟨rfl, rfl⟩

theorem of_takeRegister (d : Crowd n) (h : c.takeRegister t = some d) :
    d.place = c.place ∧ d.state = c.state := by
  obtain ⟨-, rfl⟩ := takeRegister_eq_some_iff.mp h
  exact ⟨rfl, rfl⟩

theorem of_takeGate {g : Gate} (d : Crowd n) (h : c.takeGate t g = some d) :
    d.place = c.place ∧ d.state = c.state := by
  obtain ⟨-, rfl⟩ := takeGate_eq_some_iff.mp h
  exact ⟨rfl, rfl⟩

/-- **What a step does** that a caller with a handle takes. -/
theorem moving_stepInside {w : Wanted} {g : Gate} {phase : Phase}
    (ht : c.place t = .inside w g phase) (h : stepInside out c t w g phase = some c') :
    Moving c (.go t) c' := by
  have hfetches : (c.place t).fetches? = phase.request?.map fun k => (w.source, k) := by
    rw [ht]
    rfl
  have hstored : c.stored? (.go t) = (Place.inside w g phase).stores? c.state.keys := by
    rw [stored?, ht]
  cases phase with
  | queued => exact .of_take (p := .inside w g .admitted) of_takeGate (Or.inl rfl) hstored h
  | admitted =>
    exact .of_take (p := .inside w g .checking) of_takeToRead (Or.inl rfl) hstored h
  | checking =>
    cases h
    refine .of_doing (calm_look w) rfl rfl (fun r => Or.inl ?_) hstored
    cases r with
    | error f => rfl
    | ok found => cases found <;> rfl
  | bound =>
    cases h
    have hrun := @run_askForKeys out c.state w.source
    have hstate : (c.doing out t (askForKeys w.source) fun r => .inside w g (.ofAsked r)).state =
        c.state.asking (fetchLine w.source) w.source := by
      rw [doing, hrun]
      rfl
    have hplace : (c.doing out t (askForKeys w.source) fun r => .inside w g (.ofAsked r)).place =
        (c.put t (.inside w g (.fetching c.state.requests.length))).place := by
      rw [doing, hrun]
      rfl
    refine @Moving.asked n c (.go t) _ w.source hstored ?_ ?_ fun u source' k hu => ?_
    · rw [hstate]
      rfl
    · rw [hstate, State.asking_requests]
    · rcases fetches_of_put hplace hu with ⟨-, hf⟩ | ⟨-, hf⟩
      · obtain ⟨rfl, rfl⟩ := Prod.mk.inj (Option.some.inj hf)
        exact Or.inr ⟨rfl, rfl⟩
      · exact Or.inl hf
  | fetching k =>
    cases h
    refine .of_doing (calm_readKeys w.source k) rfl rfl (fun r => ?_) hstored
    cases r with
    | error f => exact Or.inl rfl
    | ok keys => exact Or.inr hfetches.symm
  | carrying k keys =>
    cases h
    refine .of_doing calm_dateKeys rfl rfl (fun r => ?_) hstored
    cases r with
    | error f => exact Or.inl rfl
    | ok keys => exact Or.inr hfetches.symm
  | dated k keys moment =>
    exact .of_take (p := .inside w g (.storing k keys moment)) of_takeToWrite
      (Or.inr hfetches.symm) hstored h
  | storing k keys moment =>
    cases h
    refine .stored (t := t) (b := ⟨w.source, k, ⟨c.state.keys.nextSerial, keys⟩, moment,
      moment + c.state.keys.ttl⟩) hstored hfetches rfl rfl rfl
      fun u source' k' hu => ?_
    rcases @fetches_of_put n c _ t u (.inside w g (.ofStored _)) source' k' rfl hu with
      ⟨-, hf⟩ | ⟨hut, hf⟩
    · cases hf
    · exact ⟨hf, hut⟩
  | done r =>
    cases h
    refine .of_put (p := .inside w g (.ofDone r)) rfl (Or.inl ?_) hstored (Or.inl rfl) rfl
    cases r with
    | ok got => rfl
    | error f => cases f <;> rfl
  | leaving r =>
    exact .of_take (p := .inside w g (.inspecting r)) of_takeRegister (Or.inl rfl) hstored h
  | inspecting r =>
    cases h
    rw [inspect]
    split
    · exact .of_put (p := .inside w g (.removing r)) rfl (Or.inl rfl) hstored (Or.inl rfl) rfl
    · exact .of_put (p := .inside w g (.parting r)) rfl (Or.inl rfl) hstored (Or.inl rfl) rfl
  | removing r =>
    cases h
    exact .of_put (p := .inside w g (.parting r)) rfl (Or.inl rfl) hstored (Or.inl rfl) rfl
  | parting r =>
    cases h
    exact .of_put (p := .returned (.keys r)) rfl (Or.inl rfl) hstored (Or.inl rfl) rfl

/-- **What a step does.** -/
theorem moving_step (h : c.step out t = some c') : Moving c (.go t) c' := by
  rw [Crowd.step] at h
  have quiet (hfetches : (c.place t).fetches? = none) : c.stored? (.go t) = none :=
    stored?_eq_none hfetches
  cases ht : c.place t with
  | inside w g phase =>
    rw [ht] at h
    exact moving_stepInside ht h
  | idle =>
    rw [ht] at h
    cases h
  | returned o =>
    rw [ht] at h
    cases h
  | asking w =>
    rw [ht] at h quiet
    exact .of_take (p := .looking w) of_takeToRead (Or.inl rfl) (quiet rfl) h
  | looking w =>
    rw [ht] at h quiet
    cases h
    refine .of_doing (calm_lookFirst w) rfl rfl (fun r => Or.inl ?_) (quiet rfl)
    cases r with
    | error f => rfl
    | ok found => cases found <;> rfl
  | unhelped w =>
    rw [ht] at h quiet
    exact .of_take (p := .registering w) of_takeRegister (Or.inl rfl) (quiet rfl) h
  | registering w =>
    rw [ht] at h quiet
    cases h
    rw [enroll]
    cases c.gate? w.source with
    | some g => exact .of_put (p := .enrolling w g) rfl (Or.inl rfl) (quiet rfl) (Or.inl rfl) rfl
    | none =>
      exact .of_put (p := .enrolling w c.nextGate) rfl (Or.inl rfl) (quiet rfl) (Or.inl rfl) rfl
  | enrolling w g =>
    rw [ht] at h quiet
    cases h
    exact .of_put (p := .inside w g .queued) rfl (Or.inl rfl) (quiet rfl) (Or.inl rfl) rfl
  | clearing =>
    rw [ht] at h quiet
    exact .of_take (p := .emptying) of_takeToWrite (Or.inl rfl) (quiet rfl) h
  | emptying =>
    rw [ht] at h quiet
    cases h
    exact .of_put (p := .returned .cleared) rfl (Or.inl rfl) (quiet rfl) (Or.inr rfl) rfl
  | measuring =>
    rw [ht] at h quiet
    exact .of_take (p := .counting) of_takeToRead (Or.inl rfl) (quiet rfl) h
  | counting =>
    rw [ht] at h quiet
    cases h
    exact .of_put (p := .returned (.size c.state.keys.size)) rfl (Or.inl rfl) (quiet rfl)
      (Or.inl rfl) rfl

/-- A caller who sets out neither asks nor stores. -/
theorem moving_start {errand : Errand} (h : c.start out t errand = some c') :
    Moving c (.start t errand) c' := by
  simp only [start, Option.ite_none_right_eq_some, Option.some.injEq] at h
  obtain ⟨-, rfl⟩ := h
  have out_of {d : Crowd n} {p : Place} (hplace : d.place = (c.put t p).place)
      (hp : p.fetches? = none) (hstate : d.state.keys = c.state.keys ∧
        d.state.requests = c.state.requests) : Moving c (.start t errand) d := by
    refine .still rfl (Or.inl hstate.1) hstate.2 fun u source k hu => ?_
    rcases fetches_of_put hplace hu with ⟨-, hf⟩ | ⟨-, hf⟩
    · rw [hp] at hf
      cases hf
    · exact hf
  cases errand with
  | get source => exact out_of (p := .asking ⟨source, none⟩) rfl rfl ⟨rfl, rfl⟩
  | refresh source =>
    exact out_of (p := .asking ⟨source, some (out.clock c.state.readings)⟩) rfl rfl ⟨rfl, rfl⟩
  | clear => exact out_of (p := .clearing) rfl rfl ⟨rfl, rfl⟩
  | size => exact out_of (p := .measuring) rfl rfl ⟨rfl, rfl⟩

/-- Who has something to store can store it. -/
theorem stored?_of_step_eq_none (h : c.step out t = none) : c.stored? (.go t) = none := by
  rw [stored?]
  cases ht : c.place t with
  | inside w g phase =>
    rw [Crowd.step, ht] at h
    cases phase with
    | storing => cases h
    | _ => rfl
  | _ => rfl

/-- What is stored is what a caller has fetched. -/
theorem exists_fetches_of_stored? {move : Move n} {b : Stored} (h : c.stored? move = some b) :
    ∃ t, c.Fetches t b.source b.number := by
  cases move with
  | start => exact nomatch h
  | go t =>
    refine ⟨t, ?_⟩
    rw [stored?] at h
    rw [Fetches]
    cases ht : c.place t with
    | inside w g phase =>
      rw [ht] at h
      cases phase with
      | storing =>
        cases h
        rfl
      | _ => exact nomatch h
    | _ =>
      rw [ht] at h
      exact nomatch h

/-- **What a move does.** -/
theorem moving_next (out : Surroundings) (c : Crowd n) (move : Move n) :
    Moving c move (c.next out move) := by
  cases move with
  | start t errand =>
    rw [next]
    cases h : c.start out t errand with
    | none => exact .still rfl (Or.inl rfl) rfl fun _ _ _ hu => hu
    | some c' => exact moving_start h
  | go t =>
    rw [next]
    cases h : c.step out t with
    | none => exact .still (stored?_of_step_eq_none h) (Or.inl rfl) rfl fun _ _ _ hu => hu
    | some c' => exact moving_step h

/-! ## 5. Runs -/

/-- **What was stored, and what is being fetched**, in the order of the requests. -/
structure Ordered (c₀ : Crowd n) (stored : List Stored) (c : Crowd n) : Prop where
  /-- Whoever is fetching has made a request. -/
  asked : ∀ t source k, c.Fetches t source k → c.state.requests[k]? = some source
  /-- So has whoever has stored something. -/
  past : ∀ a ∈ stored, c.state.requests[a.number]? = some a.source
  /-- What is being fetched was requested after all that is stored. -/
  later : ∀ t source k, c.Fetches t source k → ∀ a ∈ stored, a.source = source → a.number < k
  /-- What was stored for a source was stored in the order of the requests. -/
  sorted : stored.Pairwise fun a b => a.source = b.source → a.number < b.number
  /-- Every entry was there at first, or was stored. -/
  origin : ∀ source e, c.state.keys.find? source = some e →
    c₀.state.keys.find? source = some e ∨ ∃ a ∈ stored, a.source = source ∧ a.entry = e

namespace Ordered

variable {c₀ : Crowd n} {stored : List Stored}

theorem refl (h : ∀ t, (c.place t).isFree = true) : Ordered c [] c := by
  have nobody (t : Fin n) (source : KeySource) (k : Nat) : ¬ c.Fetches t source k := by
    intro ht
    have hfree := h t
    rw [Fetches] at ht
    cases hp : c.place t with
    | inside w g phase =>
      rw [hp] at hfree
      exact nomatch hfree
    | _ =>
      rw [hp] at ht
      exact nomatch ht
  exact ⟨fun t source k ht => (nobody t source k ht).elim, (fun _ ha => nomatch ha),
    fun t source k ht => (nobody t source k ht).elim, .nil, fun _ _ he => Or.inl he⟩

/-- The requests that were made keep their numbers. -/
theorem getElem?_append {requests : List KeySource} {source source' : KeySource} {k : Nat}
    (h : requests[k]? = some source) : (requests ++ [source'])[k]? = some source := by
  rw [List.getElem?_append_left (List.getElem?_eq_some_iff.mp h).1, h]

/-- **A move keeps the order.** -/
theorem next (h : Ordered c₀ stored c) (hs : c.Sound) (out : Surroundings) (move : Move n) :
    Ordered c₀ (stored ++ (c.stored? move).toList) (c.next out move) := by
  cases moving_next out c move with
  | still hstored hkeys hrequests hfetches =>
    rw [hstored, Option.toList_none, List.append_nil]
    refine ⟨fun t source k ht => ?_, fun a ha => ?_, fun t source k ht => ?_, h.sorted,
      fun source e he => ?_⟩
    · rw [hrequests]
      exact h.asked t source k (hfetches t source k ht)
    · rw [hrequests]
      exact h.past a ha
    · exact h.later t source k (hfetches t source k ht)
    · rcases hkeys with hkeys | hnone
      · exact h.origin source e (hkeys ▸ he)
      · have hmem := KeyCache.mem_of_find? he
        rw [hnone] at hmem
        exact nomatch hmem
  | @asked source' hstored hkeys hrequests hfetches =>
    rw [hstored, Option.toList_none, List.append_nil]
    refine ⟨fun t source k ht => ?_, fun a ha => ?_, fun t source k ht a ha hsource => ?_, h.sorted,
      fun source e he => ?_⟩
    · rw [hrequests]
      rcases hfetches t source k ht with hold | ⟨rfl, rfl⟩
      · exact getElem?_append (h.asked t source k hold)
      · exact List.getElem?_concat_length
    · rw [hrequests]
      exact getElem?_append (h.past a ha)
    · rcases hfetches t source k ht with hold | ⟨-, rfl⟩
      · exact h.later t source k hold a ha hsource
      · exact (List.getElem?_eq_some_iff.mp (h.past a ha)).1
    · exact h.origin source e (hkeys ▸ he)
  | @stored t b hstored hfrom hkeys hentry hrequests hfetches =>
    rw [hstored, Option.toList_some]
    have hnumber : c.state.requests[b.number]? = some b.source := h.asked t b.source b.number hfrom
    refine ⟨fun u source k hu => ?_, fun a ha => ?_, fun u source k hu a ha hsource => ?_, ?_,
      fun source e he => ?_⟩
    · rw [hrequests]
      exact h.asked u source k (hfetches u source k hu).1
    · rw [hrequests]
      rcases List.mem_append.mp ha with hold | hnew
      · exact h.past a hold
      · rw [List.mem_singleton.mp hnew]
        exact hnumber
    · obtain ⟨hbefore, hut⟩ := hfetches u source k hu
      rcases List.mem_append.mp ha with hold | hnew
      · exact h.later u source k hbefore a hold hsource
      · -- the caller who stores is the only one who fetches from this source
        rw [List.mem_singleton.mp hnew] at hsource
        exact absurd (hs.eq_of_fetches (hsource ▸ hbefore) hfrom) hut
    · refine List.pairwise_append.mpr ⟨h.sorted, List.pairwise_singleton _ _, fun a ha b' hb => ?_⟩
      rw [List.mem_singleton.mp hb]
      exact h.later t b.source b.number hfrom a ha
    · have hmem := KeyCache.mem_of_find? he
      rw [hkeys] at hmem
      rcases KeyCache.mem_store hmem with ⟨hold, -⟩ | hnew
      · rcases h.origin source e (KeyCache.find?_eq_some_iff.mpr hold) with hfirst | ⟨a, ha, hae⟩
        · exact Or.inl hfirst
        · exact Or.inr ⟨a, List.mem_append_left _ ha, hae⟩
      · obtain ⟨rfl, rfl⟩ := Prod.mk.inj hnew
        exact Or.inr ⟨b, List.mem_append_right _ (List.mem_singleton_self b), rfl, hentry⟩

/-- **A run keeps the order.** -/
theorem after (out : Surroundings) (s : State) (moves : List (Move n)) :
    Ordered ({ state := s } : Crowd n) (({ state := s } : Crowd n).stored out moves)
      (({ state := s } : Crowd n).after out moves) := by
  induction moves using List.reverseRecOn with
  | nil => exact .refl fun _ => rfl
  | append_singleton moves move ih =>
    rw [stored_concat, after_concat]
    exact ih.next ((sound_initial n s).after out moves) out move

end Ordered

/-- Only what is stored replaces an entry. -/
theorem stored?_of_find?_ne {move : Move n} {e e' : KeyCache.Entry}
    (he : c.state.keys.find? source = some e)
    (he' : (c.next out move).state.keys.find? source = some e') (hne : e' ≠ e) :
    ∃ b, c.stored? move = some b ∧ b.source = source ∧ b.entry = e' := by
  have changed (hkeys : (c.next out move).state.keys = c.state.keys) : False := by
    rw [hkeys, he] at he'
    exact hne (Option.some.inj he').symm
  have hmem := KeyCache.mem_of_find? he'
  cases moving_next out c move with
  | still _ hkeys =>
    rcases hkeys with hkeys | hnone
    · exact (changed hkeys).elim
    · rw [hnone] at hmem
      exact nomatch hmem
  | asked _ hkeys => exact (changed hkeys).elim
  | @stored t b hstored _ hkeys hentry =>
    rw [hkeys] at hmem
    rcases KeyCache.mem_store hmem with ⟨hold, -⟩ | hnew
    · rw [KeyCache.find?_eq_some_iff.mpr hold] at he
      exact (hne (Option.some.inj he)).elim
    · obtain ⟨rfl, rfl⟩ := Prod.mk.inj hnew
      exact ⟨b, hstored, rfl, hentry⟩

/-- **Callers do not fetch the same twice at a time, and none undoes what another has done.**  Some
callers, of whom nobody has anything to do at first, make any moves.  Then no two of them are
fetching from the same source.  If one more move replaces the entry of a source, the new entry is
what a caller has fetched, and it was requested after everything that was stored for that source
before.  That includes the entry that was there, unless it was there from the beginning. -/
theorem fetches_exclusive_stores_ordered (out : Surroundings) (n : Nat) (s : State)
    (moves : List (Move n)) :
    let c₀ : Crowd n := { state := s }
    let c : Crowd n := c₀.after out moves
    (∀ t u source k k', c.Fetches t source k → c.Fetches u source k' → t = u) ∧
      ∀ move source e e', c.state.keys.find? source = some e →
        (c.next out move).state.keys.find? source = some e' → e' ≠ e →
        ∃ b, c.stored? move = some b ∧ b.source = source ∧ b.entry = e' ∧
          c.state.requests[b.number]? = some source ∧
          (s.keys.find? source = some e ∨
            ∃ a ∈ c₀.stored out moves, a.source = source ∧ a.entry = e) ∧
          ∀ a ∈ c₀.stored out moves, a.source = source →
            c.state.requests[a.number]? = some source ∧ a.number < b.number := by
  intro c₀ c
  have hs : c.Sound := (sound_initial n s).after out moves
  have ho : Ordered c₀ (c₀.stored out moves) c := .after out s moves
  refine ⟨fun t u source k k' ht hu => hs.eq_of_fetches ht hu, ?_⟩
  intro move source e e' he he' hne
  obtain ⟨b, hb, rfl, hentry⟩ := stored?_of_find?_ne he he' hne
  obtain ⟨t, hfrom⟩ := exists_fetches_of_stored? hb
  refine ⟨b, hb, rfl, hentry, ho.asked t b.source b.number hfrom, ho.origin b.source e he, ?_⟩
  intro a ha hsource
  exact ⟨hsource ▸ ho.past a ha, ho.later t b.source b.number hfrom a ha hsource⟩

/-- One caller gets keys while another one waits at the gate, which then finds them.  The first
refreshes them a few seconds later. -/
theorem fetches_exclusive_stores_ordered_refresh :
    let source : KeySource := ⟨⟨"https", some ⟨"", none, some (.domain "my.auth.com"), none⟩,
      .segments ["token_keys"], none, none⟩, none⟩
    let out : Surroundings := ⟨fun n => Duration.ofSeconds n, 0,
      fun _ _ => .body (Text.Utf8.bytes "\x7b\x22keys\x22:[]\x7d")⟩
    let goes (t : Fin 2) : List (Move 2) := List.replicate 9 (.go t)
    let moves : List (Move 2) := .start 0 (.get source) :: .start 1 (.get source) ::
      (goes 0 ++ goes 1 ++ goes 0 ++ goes 1 ++ .start 0 (.refresh source) :: goes 0) ++
        [.go 0, .go 0, .go 0]
    let c : Crowd 2 := ({ state := {} } : Crowd 2).after out moves
    ∃ e e' b, c.state.keys.find? source = some e ∧
      (c.next out (.go 0)).state.keys.find? source = some e' ∧ c.stored? (.go 0) = some b ∧
      b.entry = e' ∧
      ∀ a ∈ ({ state := {} } : Crowd 2).stored out moves, a.source = source →
        c.state.requests[a.number]? = some source ∧ a.number < b.number := by
  intro source out goes moves c
  have he : c.state.keys.find? source =
      some ⟨⟨0, .empty⟩, Duration.ofSeconds 3, Duration.ofSeconds 603⟩ := by decide +kernel
  have he' : (c.next out (.go 0)).state.keys.find? source =
      some ⟨⟨1, .empty⟩, Duration.ofSeconds 8, Duration.ofSeconds 608⟩ := by decide +kernel
  have hstores := (fetches_exclusive_stores_ordered out 2 {} moves).2 (.go 0) source
  have hc : ({ state := {} } : Crowd 2).after out moves = c := rfl
  rw [hc] at hstores
  have hne : (⟨⟨1, .empty⟩, Duration.ofSeconds 8, Duration.ofSeconds 608⟩ : KeyCache.Entry) ≠
      ⟨⟨0, .empty⟩, Duration.ofSeconds 3, Duration.ofSeconds 603⟩ :=
    fun h => nomatch congrArg (·.held.serial) h
  obtain ⟨b, hb, -, hentry, -, -, hlater⟩ := hstores _ _ he he' hne
  exact ⟨_, _, b, he, he', hb, hentry, hlater⟩

end Crowd
end Retrieval
end TokenTrust

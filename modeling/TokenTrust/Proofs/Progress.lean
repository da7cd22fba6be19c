/-
# Nobody waits for ever

What one step of one caller does, all at once (`Crowd.Stepping`), and two things that follow for
callers who wait for each other.

There is a lock that is taken only if somebody stands where it is given back (`Crowd.Attended`).
Who keeps a gate may have to wait for the entries, and who reads or changes the entries waits for
nothing, and neither does who uses the register.  So as long as anybody is under way, somebody can
take a step (`Attended.exists_step`).

And each step brings the caller nearer to its return, by a path that has eighteen steps at most
(`Place.left`).  So the callers take no more than eighteen steps for each time that one sets out
(`taken_add_left_le`), and when nobody can take another one, they have all returned.
-/
import TokenTrust.Proofs.Gates

namespace TokenTrust
namespace Retrieval

open TokenTrust.Action

/-- No look takes a reading of the clock back. -/
theorem readings_look_le (w : Wanted) (out : Surroundings) (s : State) :
    s.readings ≤ (w.look.run out s).2.readings := by
  rw [run_look]
  split
  · exact Nat.le_succ _
  · exact Nat.le_refl _

theorem readings_lookFirst_le (w : Wanted) (out : Surroundings) (s : State) :
    s.readings ≤ (w.lookFirst.run out s).2.readings := by
  have hlook := readings_look_le w out s
  rw [Wanted.lookFirst, run_bind]
  cases hrun : w.look.run out s with
  | mk r s' =>
    rw [hrun] at hlook
    cases r with
    | error f => exact hlook
    | ok found =>
      simp only
      split
      · exact hlook
      · exact hlook

theorem readings_dateKeys_le (out : Surroundings) (s : State) :
    s.readings ≤ (dateKeys.run out s).2.readings := by
  rw [run_dateKeys]
  split
  · exact Nat.le_succ _
  · exact Nat.le_succ _

theorem readings_readKeys (source : KeySource) (k : Nat) (out : Surroundings) (s : State) :
    ((readKeys source k).run out s).2.readings = s.readings := by
  rw [run_readKeys]
  cases keysIn (out.answer k source) with
  | ok report => rfl
  | error f => cases f <;> rfl

namespace Crowd

variable {n : Nat} {c c' : Crowd n} {t u : Fin n} {p : Place} {g : Gate} {out : Surroundings}

@[simp] theorem doing_place_self {α : Type} (x : Action α) (goOn : Except Failure α → Place) :
    (c.doing out t x goOn).place t = goOn (x.run out c.state).1 := by
  simp [doing, put]

/-! ## 1. Steps -/

/-- **What a step does**, by the place where the caller is. -/
inductive Stepping (out : Surroundings) (c : Crowd n) (t : Fin n) : Place → Crowd n → Prop
  | asking {w : Wanted} (h : c.writing = false) : Stepping out c t (.asking w)
    ({ c with readers := c.readers + 1 }.put t (.looking w))
  | looking {w : Wanted} : Stepping out c t (.looking w)
    (c.endReading.doing out t w.lookFirst (.ofLook w))
  | unhelped {w : Wanted} (h : c.registrar = none) : Stepping out c t (.unhelped w)
    ({ c with registrar := some t }.put t (.registering w))
  /-- The source has a gate. -/
  | found {w : Wanted} {g : Gate} (h : c.gate? w.source = some g) :
    Stepping out c t (.registering w) (c.put t (.enrolling w g))
  /-- The source has none. -/
  | missed {w : Wanted} (h : c.gate? w.source = none) : Stepping out c t (.registering w)
    ((c.putUp w.source).put t (.enrolling w c.nextGate))
  | enrolling {w : Wanted} {g : Gate} : Stepping out c t (.enrolling w g)
    ((c.setHandles g (c.handles g + 1)).freeRegister.put t (.inside w g .queued))
  | queued {w : Wanted} {g : Gate} (h : c.keeper g = none) : Stepping out c t
    (.inside w g .queued) ((c.setKeeper g (some t)).put t (.inside w g .admitted))
  | admitted {w : Wanted} {g : Gate} (h : c.writing = false) : Stepping out c t
    (.inside w g .admitted) ({ c with readers := c.readers + 1 }.put t (.inside w g .checking))
  | checking {w : Wanted} {g : Gate} : Stepping out c t (.inside w g .checking)
    (c.endReading.doing out t w.look fun r => .inside w g (.ofLook r))
  | bound {w : Wanted} {g : Gate} : Stepping out c t (.inside w g .bound)
    (c.doing out t (askForKeys w.source) fun r => .inside w g (.ofAsked r))
  | fetching {w : Wanted} {g : Gate} {k : Nat} : Stepping out c t (.inside w g (.fetching k))
    (c.doing out t (readKeys w.source k) fun r => .inside w g (.ofRead k r))
  | carrying {w : Wanted} {g : Gate} {k : Nat} {keys : KeySet} : Stepping out c t
    (.inside w g (.carrying k keys))
    (c.doing out t dateKeys fun r => .inside w g (.ofMoment k keys r))
  | dated {w : Wanted} {g : Gate} {k : Nat} {keys : KeySet} {moment : Instant}
    (hw : c.writing = false) (hr : c.readers = 0) : Stepping out c t
    (.inside w g (.dated k keys moment))
    ({ c with writing := true }.put t (.inside w g (.storing k keys moment)))
  | storing {w : Wanted} {g : Gate} {k : Nat} {keys : KeySet} {moment : Instant} :
    Stepping out c t (.inside w g (.storing k keys moment))
    (c.endWriting.doing out t (depositKeys w.source keys moment)
      fun r => .inside w g (.ofStored r))
  | done {w : Wanted} {g : Gate} {r : Gotten} : Stepping out c t (.inside w g (.done r))
    ((c.setKeeper g none).put t (.inside w g (.ofDone r)))
  | leaving {w : Wanted} {g : Gate} {r : Gotten} (h : c.registrar = none) : Stepping out c t
    (.inside w g (.leaving r)) ({ c with registrar := some t }.put t (.inside w g (.inspecting r)))
  /-- Nobody else needs the gate. -/
  | unshared {w : Wanted} {g : Gate} {r : Gotten}
    (h : c.gate? w.source = some g ∧ c.handles g = 2) : Stepping out c t
    (.inside w g (.inspecting r)) (c.put t (.inside w g (.removing r)))
  /-- Somebody does. -/
  | shared {w : Wanted} {g : Gate} {r : Gotten}
    (h : ¬ (c.gate? w.source = some g ∧ c.handles g = 2)) : Stepping out c t
    (.inside w g (.inspecting r)) (c.freeRegister.put t (.inside w g (.parting r)))
  | removing {w : Wanted} {g : Gate} {r : Gotten} : Stepping out c t (.inside w g (.removing r))
    ((c.remove w.source g).freeRegister.put t (.inside w g (.parting r)))
  | parting {w : Wanted} {g : Gate} {r : Gotten} : Stepping out c t (.inside w g (.parting r))
    ((c.setHandles g (c.handles g - 1)).put t (.returned (.keys r)))
  | clearing (hw : c.writing = false) (hr : c.readers = 0) : Stepping out c t .clearing
    ({ c with writing := true }.put t .emptying)
  | emptying : Stepping out c t .emptying
    (c.endWriting.doing out t clearKeys fun _ => .returned .cleared)
  | measuring (h : c.writing = false) : Stepping out c t .measuring
    ({ c with readers := c.readers + 1 }.put t .counting)
  | counting : Stepping out c t .counting
    (c.endReading.put t (.returned (.size c.state.keys.size)))

/-- A step of a caller with a handle is one of these. -/
theorem stepping_of_stepInside {w : Wanted} {phase : Phase}
    (h : stepInside out c t w g phase = some c') : Stepping out c t (.inside w g phase) c' := by
  cases phase with
  | queued =>
    obtain ⟨c₁, hc₁, rfl⟩ := Option.map_eq_some_iff.mp h
    obtain ⟨hopen, rfl⟩ := takeGate_eq_some_iff.mp hc₁
    exact .queued hopen
  | admitted =>
    obtain ⟨c₁, hc₁, rfl⟩ := Option.map_eq_some_iff.mp h
    obtain ⟨hw, rfl⟩ := takeToRead_eq_some_iff.mp hc₁
    exact .admitted hw
  | dated k keys moment =>
    obtain ⟨c₁, hc₁, rfl⟩ := Option.map_eq_some_iff.mp h
    obtain ⟨⟨hw, hr⟩, rfl⟩ := takeToWrite_eq_some_iff.mp hc₁
    exact .dated hw hr
  | leaving r =>
    obtain ⟨c₁, hc₁, rfl⟩ := Option.map_eq_some_iff.mp h
    obtain ⟨hfree, rfl⟩ := takeRegister_eq_some_iff.mp hc₁
    exact .leaving hfree
  | inspecting r =>
    cases h
    rw [inspect]
    split
    case isTrue hg => exact .unshared hg
    case isFalse hg => exact .shared hg
  | checking => cases h; exact .checking
  | bound => cases h; exact .bound
  | fetching k => cases h; exact .fetching
  | carrying k keys => cases h; exact .carrying
  | storing k keys moment => cases h; exact .storing
  | done r => cases h; exact .done
  | removing r => cases h; exact .removing
  | parting r => cases h; exact .parting

/-- **Every step is one of these.** -/
theorem stepping_of_step (h : c.step out t = some c') : Stepping out c t (c.place t) c' := by
  rw [Crowd.step] at h
  cases ht : c.place t with
  | idle =>
    rw [ht] at h
    cases h
  | returned o =>
    rw [ht] at h
    cases h
  | asking w =>
    rw [ht] at h
    obtain ⟨c₁, hc₁, rfl⟩ := Option.map_eq_some_iff.mp h
    obtain ⟨hw, rfl⟩ := takeToRead_eq_some_iff.mp hc₁
    exact .asking hw
  | looking w => rw [ht] at h; cases h; exact .looking
  | unhelped w =>
    rw [ht] at h
    obtain ⟨c₁, hc₁, rfl⟩ := Option.map_eq_some_iff.mp h
    obtain ⟨hfree, rfl⟩ := takeRegister_eq_some_iff.mp hc₁
    exact .unhelped hfree
  | registering w =>
    rw [ht] at h
    cases h
    rw [enroll]
    cases hg : c.gate? w.source with
    | some g => exact .found hg
    | none => exact .missed hg
  | enrolling w g => rw [ht] at h; cases h; exact .enrolling
  | inside w g phase =>
    rw [ht] at h
    exact stepping_of_stepInside h
  | clearing =>
    rw [ht] at h
    obtain ⟨c₁, hc₁, rfl⟩ := Option.map_eq_some_iff.mp h
    obtain ⟨⟨hw, hr⟩, rfl⟩ := takeToWrite_eq_some_iff.mp hc₁
    exact .clearing hw hr
  | emptying => rw [ht] at h; cases h; exact .emptying
  | measuring =>
    rw [ht] at h
    obtain ⟨c₁, hc₁, rfl⟩ := Option.map_eq_some_iff.mp h
    obtain ⟨hw, rfl⟩ := takeToRead_eq_some_iff.mp hc₁
    exact .measuring hw
  | counting => rw [ht] at h; cases h; exact .counting

/-- **A move** lets somebody set out or take a step, or does nothing. -/
theorem next_cases {P : Crowd n → Prop} (out : Surroundings) (c : Crowd n) (move : Move n)
    (hsame : P c)
    (hstart : ∀ t errand c', move = .start t errand → c.start out t errand = some c' → P c')
    (hgo : ∀ t c', move = .go t → c.step out t = some c' → P c') : P (c.next out move) := by
  cases move with
  | start t errand =>
    rw [next]
    cases h : c.start out t errand with
    | none => exact hsame
    | some c' => exact hstart t errand c' rfl h
  | go t =>
    rw [next]
    cases h : c.step out t with
    | none => exact hsame
    | some c' => exact hgo t c' rfl h

end Crowd

/-! ## 2. How far it is -/

/-- How many steps a caller behind a gate still has to take, at most. -/
def Phase.left : Phase → Nat
  | .queued => 13
  | .admitted => 12
  | .checking => 11
  | .bound => 10
  | .fetching _ => 9
  | .carrying _ _ => 8
  | .dated _ _ _ => 7
  | .storing _ _ _ => 6
  | .done _ => 5
  | .leaving _ => 4
  | .inspecting _ => 3
  | .removing _ => 2
  | .parting _ => 1

/-- How many steps a caller still has to take, at most. -/
def Place.left : Place → Nat
  | .asking _ => 18
  | .looking _ => 17
  | .unhelped _ => 16
  | .registering _ => 15
  | .enrolling _ _ => 14
  | .inside _ _ phase => phase.left
  | .clearing | .measuring => 2
  | .emptying | .counting => 1
  | .idle | .returned _ => 0

namespace Place

theorem left_ofRequested_le (source : KeySource) (r : Except Failure Instant) :
    (ofRequested source r).left ≤ 18 := by
  cases r <;> simp [ofRequested, left]

theorem left_ofLook_lt (w : Wanted) (r : Except Failure (Option HeldKeys)) :
    (ofLook w r).left < 17 := by
  cases r with
  | error f => simp [ofLook, left]
  | ok found => cases found <;> simp [ofLook, left]

end Place

namespace Phase

theorem left_ofLook_lt (r : Except Failure (Option HeldKeys)) : (ofLook r).left < 11 := by
  cases r with
  | error f => simp [ofLook, left]
  | ok found => cases found <;> simp [ofLook, left]

theorem left_ofAsked_lt (r : Except Failure Nat) : (ofAsked r).left < 10 := by
  cases r <;> simp [ofAsked, left]

theorem left_ofRead_lt (k : Nat) (r : Except Failure KeySet) : (ofRead k r).left < 9 := by
  cases r <;> simp [ofRead, left]

theorem left_ofMoment_lt (k : Nat) (keys : KeySet) (r : Except Failure Instant) :
    (ofMoment k keys r).left < 8 := by
  cases r <;> simp [ofMoment, left]

theorem left_ofStored_lt (r : Except Failure HeldKeys) : (ofStored r).left < 6 := by
  cases r <;> simp [ofStored, left]

theorem left_ofDone_lt (r : Gotten) : (ofDone r).left < 5 := by
  cases r with
  | ok got => simp [ofDone, left]
  | error f => cases f <;> simp [ofDone, left]

end Phase

namespace Crowd

variable {n : Nat} {c c' : Crowd n} {t u : Fin n} {p : Place} {g : Gate} {out : Surroundings}

/-- How many steps all callers together still have to take, at most. -/
def left (c : Crowd n) : Nat := ∑ t, (c.place t).left

/-- Somebody goes to another place, and the others stay where they are. -/
theorem left_put (hplace : c'.place = (c.put t p).place) :
    c'.left + (c.place t).left = c.left + p.left := by
  have others : ∑ u ∈ {t}ᶜ, (c'.place u).left = ∑ u ∈ {t}ᶜ, (c.place u).left := by
    refine Finset.sum_congr rfl fun u hu => ?_
    rw [hplace, put_place_of_ne (by simpa using hu)]
  have there : c'.place t = p := by rw [hplace, put_place_self]
  rw [left, left, Fintype.sum_eq_add_sum_compl t, Fintype.sum_eq_add_sum_compl t, others, there]
  omega

/-- Who does something goes where its result leads. -/
theorem exists_left_lt_doing {α : Type} {d : Crowd n} (hd : d.place = c.place) (x : Action α)
    {goOn : Except Failure α → Place} {k : Nat} (h : ∀ r, (goOn r).left < k) :
    ∃ p', (d.doing out t x goOn).place = (c.put t p').place ∧ p'.left < k :=
  ⟨goOn (x.run out d.state).1, by simp only [doing, put, hd], h _⟩

/-- **A step brings the caller nearer**, and nobody else goes anywhere. -/
theorem Stepping.exists_left_lt (h : Stepping out c t p c') :
    ∃ p', c'.place = (c.put t p').place ∧ p'.left < p.left := by
  cases h with
  | looking => exact exists_left_lt_doing rfl _ (Place.left_ofLook_lt _)
  | checking => exact exists_left_lt_doing rfl _ Phase.left_ofLook_lt
  | bound => exact exists_left_lt_doing rfl _ Phase.left_ofAsked_lt
  | fetching => exact exists_left_lt_doing rfl _ (Phase.left_ofRead_lt _)
  | carrying => exact exists_left_lt_doing rfl _ (Phase.left_ofMoment_lt _ _)
  | storing => exact exists_left_lt_doing rfl _ Phase.left_ofStored_lt
  | emptying => exact exists_left_lt_doing rfl _ fun _ => Nat.zero_lt_one
  | done => exact ⟨_, rfl, Phase.left_ofDone_lt _⟩
  | _ => exact ⟨_, rfl, by simp [Place.left, Phase.left]⟩

/-- Nobody gets lost: who is under way does not come to be idle. -/
theorem Stepping.ne_idle (h : Stepping out c t p c') : c'.place t ≠ .idle := by
  have returns {α : Type} {d : Crowd n} (x : Action α) {goOn : Except Failure α → Place}
      (hgo : ∀ r, goOn r ≠ .idle) : (d.doing out t x goOn).place t ≠ .idle := by
    rw [doing_place_self]
    exact hgo _
  cases h with
  | looking =>
    refine returns _ fun r => ?_
    cases r with
    | error f => exact nofun
    | ok found => cases found <;> exact nofun
  | checking => exact returns _ fun _ => nofun
  | bound => exact returns _ fun _ => nofun
  | fetching => exact returns _ fun _ => nofun
  | carrying => exact returns _ fun _ => nofun
  | storing => exact returns _ fun _ => nofun
  | emptying => exact returns _ fun _ => nofun
  | _ =>
    rw [put_place_self]
    exact nofun

/-- No reading of the clock is taken back. -/
theorem Stepping.readings_le (h : Stepping out c t p c') :
    c.state.readings ≤ c'.state.readings := by
  cases h with
  | @looking w => exact readings_lookFirst_le w out c.state
  | @checking w => exact readings_look_le w out c.state
  | @fetching w g k => exact (readings_readKeys w.source k out c.state).ge
  | carrying => exact readings_dateKeys_le out c.state
  | _ => exact Nat.le_refl _

theorem left_step (h : c.step out t = some c') : c'.left < c.left := by
  obtain ⟨p, hplace, hlt⟩ := (stepping_of_step h).exists_left_lt
  have hleft := left_put hplace
  omega

/-- Whoever sets out is under way, or has returned already, and nobody else goes anywhere. -/
theorem exists_place_setOut (out : Surroundings) (c : Crowd n) (t : Fin n) (errand : Errand) :
    ∃ p, (c.setOut out t errand).place = (c.put t p).place ∧ p ≠ .idle ∧ p.left ≤ 18 := by
  cases errand with
  | get source => exact ⟨.asking ⟨source, none⟩, rfl, nofun, Nat.le_refl _⟩
  | refresh source =>
    refine ⟨.ofRequested source (now.run out c.state).1, rfl, nofun, ?_⟩
    exact Place.left_ofRequested_le source _
  | clear => exact ⟨.clearing, rfl, nofun, by decide⟩
  | size => exact ⟨.measuring, rfl, nofun, by decide⟩

/-- Whoever sets out has eighteen steps to take at most. -/
theorem left_start_le {errand : Errand} (h : c.start out t errand = some c') :
    c'.left ≤ c.left + 18 := by
  simp only [start, Option.ite_none_right_eq_some, Option.some.injEq] at h
  obtain ⟨-, rfl⟩ := h
  obtain ⟨p, hplace, -, hp⟩ := exists_place_setOut out c t errand
  have hleft := left_put hplace
  omega

/-- How many steps are taken in some moves. -/
def taken (out : Surroundings) (c : Crowd n) : List (Move n) → Nat
  | [] => 0
  | .start t errand :: moves => taken out (c.next out (.start t errand)) moves
  | .go t :: moves =>
    (if (c.step out t).isSome then 1 else 0) + taken out (c.next out (.go t)) moves

/-- Whether a move is that somebody sets out. -/
def Move.isStart : Move n → Bool
  | .start _ _ => true
  | .go _ => false

/-- **Nobody goes round in circles**: there are eighteen steps at most for each time that somebody
sets out. -/
theorem taken_add_left_le (out : Surroundings) (c : Crowd n) (moves : List (Move n)) :
    c.taken out moves + (c.after out moves).left ≤ c.left + 18 * moves.countP Move.isStart := by
  induction moves generalizing c with
  | nil => simp [taken, after]
  | cons move moves ih =>
    have hrest := ih (c.next out move)
    cases move with
    | start t errand =>
      have hstart : (c.next out (.start t errand)).left ≤ c.left + 18 := by
        rw [next]
        cases h : c.start out t errand with
        | none => exact Nat.le_add_right _ _
        | some c' => exact left_start_le h
      have hcount : (Move.start t errand :: moves).countP Move.isStart =
          moves.countP Move.isStart + 1 := List.countP_cons_of_pos rfl
      rw [taken, hcount]
      change taken out _ moves + ((c.next out (.start t errand)).after out moves).left ≤ _
      omega
    | go t =>
      have hcount : (Move.go t :: moves).countP Move.isStart = moves.countP Move.isStart :=
        List.countP_cons_of_neg (by simp [Move.isStart])
      have hgo : (if (c.step out t).isSome then 1 else 0) + (c.next out (.go t)).left ≤
          c.left := by
        rw [next]
        cases h : c.step out t with
        | none => simp
        | some c' =>
          have hlt := left_step h
          simp only [Option.isSome_some, if_true, Option.getD_some]
          omega
      rw [taken, hcount]
      change _ + taken out _ moves + ((c.next out (.go t)).after out moves).left ≤ _
      omega

/-! ## 3. Who has the locks -/

end Crowd

/-- Whether a caller reads the entries. -/
def Place.reads : Place → Bool
  | .looking _ | .inside _ _ .checking | .counting => true
  | _ => false

/-- Whether a caller may change the entries. -/
def Place.writes : Place → Bool
  | .inside _ _ (.storing _ _ _) | .emptying => true
  | _ => false

namespace Place

variable {w : Wanted} {g : Gate}

theorem reads_of_isFree {p : Place} (h : p.isFree = true) : p.reads = false := by
  cases p with
  | idle => rfl
  | returned o => rfl
  | _ => exact nomatch h

theorem writes_of_isFree {p : Place} (h : p.isFree = true) : p.writes = false := by
  cases p with
  | idle => rfl
  | returned o => rfl
  | _ => exact nomatch h

theorem reads_ofRequested (source : KeySource) (r : Except Failure Instant) :
    (ofRequested source r).reads = false := by
  cases r <;> rfl

theorem reads_ofLook (r : Except Failure (Option HeldKeys)) : (ofLook w r).reads = false := by
  cases r with
  | error f => rfl
  | ok found => cases found <;> rfl

theorem reads_ofSecondLook (r : Except Failure (Option HeldKeys)) :
    (inside w g (.ofLook r)).reads = false := by
  cases r with
  | error f => rfl
  | ok found => cases found <;> rfl

theorem reads_ofAsked (r : Except Failure Nat) : (inside w g (.ofAsked r)).reads = false := by
  cases r <;> rfl

theorem reads_ofRead (k : Nat) (r : Except Failure KeySet) :
    (inside w g (.ofRead k r)).reads = false := by
  cases r <;> rfl

theorem reads_ofMoment (k : Nat) (keys : KeySet) (r : Except Failure Instant) :
    (inside w g (.ofMoment k keys r)).reads = false := by
  cases r <;> rfl

theorem reads_ofStored (r : Except Failure HeldKeys) :
    (inside w g (.ofStored r)).reads = false := by
  cases r <;> rfl

theorem reads_ofDone (r : Gotten) : (inside w g (.ofDone r)).reads = false := by
  cases r with
  | ok got => rfl
  | error f => cases f <;> rfl

end Place

/-- What becomes of a lock in a step of a caller who may have it before and after the step. -/
inductive Handing {n : Nat} (t : Fin n) (had has : Prop) (before after : Option (Fin n)) : Prop
  | same (h : after = before) (hhas : had → has)
  | taken (h : after = some t) (hhas : has)
  | given (h : after = none)

namespace Crowd

variable {n : Nat} {c c' : Crowd n} {t u : Fin n} {p : Place} {g : Gate} {out : Surroundings}

namespace Stepping

variable (h : Stepping out c t p c')

include h

theorem register : Handing t (p.view.registers = true) ((c'.place t).view.registers = true)
    c.registrar c'.registrar := by
  cases h with
  | unhelped => exact .taken rfl (by simp [Place.view])
  | leaving => exact .taken rfl (by simp [Place.view, Phase.view])
  | enrolling => exact .given rfl
  | shared => exact .given rfl
  | removing => exact .given rfl
  | _ => exact .same rfl (by simp [Place.view, Phase.view, View.through])

theorem gate (g : Gate) : Handing t (p.view.keeps = some g) ((c'.place t).view.keeps = some g)
    (c.keeper g) (c'.keeper g) := by
  cases h with
  | @queued w g' =>
    by_cases hg : g = g'
    · subst hg
      exact .taken (by simp [setKeeper, put]) (by simp [Place.view, Phase.view, View.through])
    · exact .same (by simp [setKeeper, put, hg]) (by simp [Place.view, Phase.view])
  | @done w g' r =>
    by_cases hg : g = g'
    · subst hg
      exact .given (by simp [setKeeper, put])
    · exact .same (by simp [setKeeper, put, hg])
        (by simp [Place.view, Phase.view, View.through, Ne.symm hg])
  | checking =>
    refine .same rfl ?_
    simp only [doing_place_self, Place.view, Phase.view_ofLook]
    exact id
  | bound =>
    refine .same rfl ?_
    simp only [doing_place_self, Place.view, Phase.view_ofAsked]
    exact id
  | fetching =>
    refine .same rfl ?_
    simp only [doing_place_self, Place.view, Phase.view_ofRead]
    exact id
  | carrying =>
    refine .same rfl ?_
    simp only [doing_place_self, Place.view, Phase.view_ofMoment]
    exact id
  | storing =>
    refine .same rfl ?_
    simp only [doing_place_self, Place.view, Phase.view_ofStored]
    exact id
  | _ => exact .same rfl (by simp [Place.view, Phase.view, View.through])

theorem writing (hw : c'.writing = true) :
    (c'.place t).writes = true ∨ c.writing = true ∧ p.writes = false := by
  cases h with
  | dated => exact Or.inl (by simp [Place.writes])
  | clearing => exact Or.inl (by simp [Place.writes])
  | storing => exact nomatch hw
  | emptying => exact nomatch hw
  | _ => exact Or.inr ⟨hw, rfl⟩

/-- Whoever begins to read is one reader more, and whoever ends is one less. -/
theorem readers (hp : p.reads = true → 0 < c.readers) :
    c'.readers + (if p.reads = true then 1 else 0) =
      c.readers + (if (c'.place t).reads = true then 1 else 0) := by
  cases h with
  | looking =>
    have hpos := hp rfl
    rw [doing_place_self, Place.reads_ofLook]
    exact Nat.sub_add_cancel hpos
  | checking =>
    have hpos := hp rfl
    rw [doing_place_self, Place.reads_ofSecondLook]
    exact Nat.sub_add_cancel hpos
  | counting =>
    have hpos := hp rfl
    rw [put_place_self]
    exact Nat.sub_add_cancel hpos
  | emptying => rw [doing_place_self]; rfl
  | bound => rw [doing_place_self, Place.reads_ofAsked]; rfl
  | fetching => rw [doing_place_self, Place.reads_ofRead]; rfl
  | carrying => rw [doing_place_self, Place.reads_ofMoment]; rfl
  | storing => rw [doing_place_self, Place.reads_ofStored]; rfl
  | done => rw [put_place_self, Place.reads_ofDone]; rfl
  | _ => rw [put_place_self]; rfl

end Stepping

/-- **A lock is taken only if somebody stands where it is given back.** -/
structure Attended (c : Crowd n) : Prop where
  register : ∀ t, c.registrar = some t → (c.place t).view.registers = true
  gates : ∀ g t, c.keeper g = some t → (c.place t).view.keeps = some g
  readers : c.readers = (Finset.univ.filter fun t => (c.place t).reads = true).card
  writing : c.writing = true → ∃ t, (c.place t).writes = true

/-- **Nobody is under way**, and every lock is free. -/
structure Quiet (c : Crowd n) : Prop where
  free : ∀ t, (c.place t).isFree = true
  registrar : c.registrar = none
  keeper : ∀ g, c.keeper g = none
  readers : c.readers = 0
  writing : c.writing = false

theorem Quiet.attended (h : c.Quiet) : c.Attended where
  register t ht := nomatch ht.symm.trans h.registrar
  gates g t ht := nomatch ht.symm.trans (h.keeper g)
  readers := by
    have nobody : ∀ t, (c.place t).reads = false := fun t => Place.reads_of_isFree (h.free t)
    simp [nobody, h.readers]
  writing hw := nomatch hw.symm.trans h.writing

namespace Attended

/-- Who goes to a place has the lock that is still taken, and nobody else gets it. -/
theorem of_handing {b : Option (Fin n)} {P : Fin n → Place → Prop} {hold : Option (Fin n)}
    (hb : ∀ u, hold = some u → P u (c.place u))
    (hplace : ∀ u, u ≠ t → c'.place u = c.place u)
    (h : Handing t (P t (c.place t)) (P t (c'.place t)) hold b) (u : Fin n) (hu : b = some u) :
    P u (c'.place u) := by
  by_cases hut : u = t
  · subst hut
    cases h with
    | same hsame hhas => exact hhas (hb u (hsame ▸ hu))
    | taken _ hhas => exact hhas
    | given hnone => exact nomatch hnone.symm.trans hu
  · rw [hplace u hut]
    cases h with
    | same hsame => exact hb u (hsame ▸ hu)
    | taken htaken => exact absurd (Option.some.inj (htaken.symm.trans hu)) (Ne.symm hut)
    | given hnone => exact nomatch hnone.symm.trans hu

/-- **A step leaves no lock behind.** -/
theorem step (ha : c.Attended) (h : c.step out t = some c') : c'.Attended := by
  have hstep := stepping_of_step h
  obtain ⟨p, hplace, -⟩ := hstep.exists_left_lt
  have elsewhere (u : Fin n) (hu : u ≠ t) : c'.place u = c.place u := by
    rw [hplace, put_place_of_ne hu]
  have there : c'.place t = p := by rw [hplace, put_place_self]
  have hcount := card_put c t p fun q => q.reads = true
  refine ⟨?_, fun g => ?_, ?_, fun hw => ?_⟩
  · exact of_handing (P := fun _ q => q.view.registers = true) ha.register elsewhere hstep.register
  · exact of_handing (P := fun _ q => q.view.keeps = some g) (ha.gates g) elsewhere (hstep.gate g)
  · have hreading : (c.place t).reads = true → 0 < c.readers := by
      intro ht
      rw [ha.readers]
      exact Finset.card_pos.mpr ⟨t, by simpa using ht⟩
    have hreaders := hstep.readers hreading
    have hbefore := ha.readers
    rw [there] at hreaders
    rw [hplace]
    omega
  · rcases hstep.writing hw with hp | ⟨hold, hnot⟩
    · exact ⟨t, hp⟩
    · obtain ⟨u, hu⟩ := ha.writing hold
      have hut : u ≠ t := by
        rintro rfl
        cases hu.symm.trans hnot
      exact ⟨u, by rw [elsewhere u hut, hu]⟩

theorem start (ha : c.Attended) {errand : Errand} (h : c.start out t errand = some c') :
    c'.Attended := by
  simp only [Crowd.start, Option.ite_none_right_eq_some, Option.some.injEq] at h
  obtain ⟨hfree, rfl⟩ := h
  have goes {p : Place} (d : Crowd n) (hplace : d.place = (c.put t p).place)
      (hp : p.reads = false) (hregistrar : d.registrar = c.registrar)
      (hkeeper : d.keeper = c.keeper) (hreaders : d.readers = c.readers)
      (hwriting : d.writing = c.writing) : d.Attended := by
    have elsewhere (u : Fin n) (hu : u ≠ t) : d.place u = c.place u := by
      rw [hplace, put_place_of_ne hu]
    have hview := Place.view_of_isFree hfree
    have hcount := card_put c t p fun q => q.reads = true
    rw [Place.reads_of_isFree hfree, hp] at hcount
    refine ⟨?_, fun g => ?_, ?_, fun hw => ?_⟩
    · exact of_handing (P := fun _ q => q.view.registers = true) ha.register elsewhere
        (.same hregistrar fun hv => by rw [hview] at hv; cases hv)
    · exact of_handing (P := fun _ q => q.view.keeps = some g) (ha.gates g) elsewhere
        (.same (congrFun hkeeper g) fun hv => by rw [hview] at hv; cases hv)
    · rw [hplace, hreaders, ha.readers]
      simpa using hcount.symm
    · obtain ⟨u, hu⟩ := ha.writing (hwriting ▸ hw)
      have hut : u ≠ t := by
        rintro rfl
        rw [Place.writes_of_isFree hfree] at hu
        cases hu
      exact ⟨u, by rw [elsewhere u hut, hu]⟩
  cases errand with
  | get source => exact goes _ rfl rfl rfl rfl rfl rfl
  | refresh source => exact goes _ rfl (Place.reads_ofRequested source _) rfl rfl rfl rfl
  | clear => exact goes _ rfl rfl rfl rfl rfl rfl
  | size => exact goes _ rfl rfl rfl rfl rfl rfl

theorem next (ha : c.Attended) (out : Surroundings) (move : Move n) : (c.next out move).Attended :=
  next_cases out c move ha (fun _ _ _ _ h => ha.start h) fun _ _ _ h => ha.step h

/-- **No lock is ever left behind.** -/
theorem after (ha : c.Attended) (out : Surroundings) (moves : List (Move n)) :
    (c.after out moves).Attended := by
  induction moves using List.reverseRecOn with
  | nil => exact ha
  | append_singleton moves move ih =>
    rw [after_concat]
    exact ih.next out move

end Attended

/-! ## 4. Somebody can go on -/

/-- Whoever uses the register can go on. -/
theorem step_ne_none_of_registers (h : (c.place t).view.registers = true) :
    c.step out t ≠ none := by
  rw [Crowd.step]
  cases hp : c.place t with
  | registering w => simp
  | enrolling w g => simp
  | inside w g phase =>
    rw [hp] at h
    cases phase with
    | inspecting r => simp [stepInside]
    | removing r => simp [stepInside]
    | _ => cases h
  | _ => rw [hp] at h; cases h

/-- So can whoever reads the entries. -/
theorem step_ne_none_of_reads (h : (c.place t).reads = true) : c.step out t ≠ none := by
  rw [Crowd.step]
  cases hp : c.place t with
  | looking w => simp
  | counting => simp
  | inside w g phase =>
    rw [hp] at h
    cases phase with
    | checking => simp [stepInside]
    | _ => cases h
  | _ => rw [hp] at h; cases h

/-- So can whoever may change them. -/
theorem step_ne_none_of_writes (h : (c.place t).writes = true) : c.step out t ≠ none := by
  rw [Crowd.step]
  cases hp : c.place t with
  | emptying => simp
  | inside w g phase =>
    rw [hp] at h
    cases phase with
    | storing k keys moment => simp [stepInside]
    | _ => cases h
  | _ => rw [hp] at h; cases h

/-- Where nobody has the entries, whoever is behind a gate can go on. -/
theorem step_ne_none_of_keeps (hw : c.writing = false) (hr : c.readers = 0)
    (h : (c.place t).view.keeps = some g) : c.step out t ≠ none := by
  rw [Crowd.step]
  cases hp : c.place t with
  | inside w g' phase =>
    rw [hp] at h
    cases phase with
    | queued => cases h
    | leaving r => cases h
    | inspecting r => cases h
    | removing r => cases h
    | parting r => cases h
    | _ => simp [stepInside, takeToRead, takeToWrite, hw, hr]
  | _ => rw [hp] at h; cases h

/-- Where every lock is free, everybody who is under way can go on. -/
theorem step_ne_none_of_free (hw : c.writing = false) (hr : c.readers = 0)
    (hregistrar : c.registrar = none) (hkeeper : ∀ g, c.keeper g = none)
    (h : (c.place t).isFree = false) : c.step out t ≠ none := by
  rw [Crowd.step]
  cases hp : c.place t with
  | idle => rw [hp] at h; cases h
  | returned o => rw [hp] at h; cases h
  | inside w g phase =>
    cases phase <;>
      simp [stepInside, takeToRead, takeToWrite, takeGate, takeRegister, hw, hr, hregistrar,
        hkeeper]
  | _ => simp [takeToRead, takeToWrite, takeRegister, hw, hr, hregistrar]

/-- **As long as anybody is under way, somebody can take a step.**  Who waits for the register or
for the entries waits for somebody who waits for nothing; who waits at a gate may wait for somebody
who waits for the entries. -/
theorem Attended.exists_step (ha : c.Attended) (out : Surroundings)
    (h : (c.place t).isFree = false) : ∃ u, c.step out u ≠ none := by
  by_contra hstuck
  have stuck (u : Fin n) : c.step out u = none := by
    by_contra hu
    exact hstuck ⟨u, hu⟩
  have hregistrar : c.registrar = none := by
    cases hreg : c.registrar with
    | none => rfl
    | some u => exact absurd (stuck u) (step_ne_none_of_registers (ha.register u hreg))
  have hw : c.writing = false := by
    cases hwriting : c.writing with
    | false => rfl
    | true =>
      obtain ⟨u, hu⟩ := ha.writing hwriting
      exact absurd (stuck u) (step_ne_none_of_writes hu)
  have hr : c.readers = 0 := by
    rw [ha.readers, Finset.card_eq_zero, Finset.filter_eq_empty_iff]
    intro u _ hu
    exact step_ne_none_of_reads hu (stuck u)
  have hkeeper (g : Gate) : c.keeper g = none := by
    cases hkeep : c.keeper g with
    | none => rfl
    | some u => exact absurd (stuck u) (step_ne_none_of_keeps hw hr (ha.gates g u hkeep))
  exact step_ne_none_of_free hw hr hregistrar hkeeper h (stuck t)

/-! ## 5. Who is under way -/

theorem place_start_of_ne {errand : Errand} (h : c.start out t errand = some c') (hu : u ≠ t) :
    c'.place u = c.place u := by
  simp only [start, Option.ite_none_right_eq_some, Option.some.injEq] at h
  obtain ⟨-, rfl⟩ := h
  obtain ⟨p, hplace, -⟩ := exists_place_setOut out c t errand
  rw [hplace, put_place_of_ne hu]

theorem place_step_of_ne (h : c.step out t = some c') (hu : u ≠ t) : c'.place u = c.place u := by
  obtain ⟨p, hplace, -⟩ := (stepping_of_step h).exists_left_lt
  rw [hplace, put_place_of_ne hu]

theorem readings_le_next (out : Surroundings) (c : Crowd n) (move : Move n) :
    c.state.readings ≤ (c.next out move).state.readings := by
  refine next_cases out c move (Nat.le_refl _) (fun t errand c' _ h => ?_) fun t c' _ h =>
    (stepping_of_step h).readings_le
  simp only [start, Option.ite_none_right_eq_some, Option.some.injEq] at h
  obtain ⟨-, rfl⟩ := h
  cases errand with
  | refresh source => exact Nat.le_succ _
  | _ => exact Nat.le_refl _

/-- Who has not set out is idle. -/
theorem idle_after (out : Surroundings) (hidle : c.place t = .idle) (moves : List (Move n))
    (h : ∀ errand, .start t errand ∉ moves) : (c.after out moves).place t = .idle := by
  induction moves using List.reverseRecOn with
  | nil => exact hidle
  | append_singleton moves move ih =>
    have hbefore := ih fun errand he => h errand (List.mem_append_left _ he)
    rw [after_concat]
    generalize c.after out moves = d at hbefore
    refine next_cases (P := fun d => d.place t = .idle) out d move hbefore
      (fun u errand d' hmove hstart => ?_) fun u d' _ hstep => ?_
    · have hut : t ≠ u := by
        rintro rfl
        exact h errand (List.mem_append_right _ (List.mem_singleton.mpr hmove.symm))
      exact (place_start_of_ne hstart hut).trans hbefore
    · have hut : t ≠ u := by
        rintro rfl
        rw [Crowd.step, hbefore] at hstep
        cases hstep
      exact (place_step_of_ne hstep hut).trans hbefore

/-- Who is not idle does not come to be idle. -/
theorem ne_idle_next (out : Surroundings) (h : c.place t ≠ .idle) (move : Move n) :
    (c.next out move).place t ≠ .idle := by
  refine next_cases (P := fun d => d.place t ≠ .idle) out c move h
    (fun u errand c' _ hstart => ?_) fun u c' _ hstep => ?_
  · simp only [start, Option.ite_none_right_eq_some, Option.some.injEq] at hstart
    obtain ⟨-, rfl⟩ := hstart
    obtain ⟨p, hplace, hp, -⟩ := exists_place_setOut out c u errand
    rw [hplace]
    exact forall_put (P := fun v q => v = t → q ≠ .idle) (fun _ => hp)
      (fun v _ hv => hv ▸ h) t rfl
  · by_cases hut : t = u
    · subst hut
      exact (stepping_of_step hstep).ne_idle
    · rw [← place_step_of_ne hstep hut] at h
      exact h

/-- Who has set out is not idle any more. -/
theorem ne_idle_after (out : Surroundings) (c : Crowd n) (moves : List (Move n))
    {errand : Errand} (h : .start t errand ∈ moves) : (c.after out moves).place t ≠ .idle := by
  induction moves using List.reverseRecOn with
  | nil => exact nomatch h
  | append_singleton moves move ih =>
    rw [after_concat]
    rcases List.mem_append.mp h with hbefore | hnow
    · exact ne_idle_next out (ih hbefore) move
    · obtain rfl := List.mem_singleton.mp hnow
      generalize c.after out moves = d
      by_cases hidle : d.place t = .idle
      · obtain ⟨p, hplace, hp, -⟩ := exists_place_setOut out d t errand
        have hstart : d.next out (.start t errand) = d.setOut out t errand := by
          rw [next, start, hidle]
          rfl
        rw [hstart, hplace, put_place_self]
        exact hp
      · exact ne_idle_next out hidle _

end Crowd
end Retrieval
end TokenTrust

/-
# A caller who is alone

`Retrieval.Callers` cuts getting and refreshing into steps, and `Retrieval.Keys` says what they do
from beginning to end.  The two agree: a caller whom nobody gets in the way of comes to the end of
its errand, with the result of the action and in the state in which the action ends (`get_alone`,
`refresh_alone`, `clear_alone`).  So what is shown about callers at the same time is about those
actions.
-/
import TokenTrust.Proofs.Retrieval
import TokenTrust.Retrieval.Callers

namespace TokenTrust
namespace Retrieval

open TokenTrust.Action

variable {out : Surroundings} {s : State} {source : KeySource} {w : Wanted}

/-! ## 1. The pieces of a fetch -/

theorem run_askForKeys :
    (askForKeys source).run out s =
      (.ok s.requests.length, s.asking (fetchLine source) source) := by
  have h : (s.logging [fetchLine source]).requests.length = s.requests.length := by simp
  rw [askForKeys, run_bind, run_log, ← h]
  rfl

/-- **What a caller makes of an answer.** -/
theorem run_readKeys (k : Nat) :
    (readKeys source k).run out s = match keysIn (out.answer k source) with
      | .ok report => (.ok report.keys, s.logging (reportLines source report))
      | .error .crash => (.error .crash, s)
      | .error (.error e) =>
        (.error (.error (failureAt source.url e)), s.logging [failureLine source e]) := by
  rw [readKeys, run_bind, run_attempt]
  cases ha : out.answer k source with
  | crash =>
    have hreceive : (receive source k).run out s = (.error .crash, s) := by rw [run, receive, ha]
    rw [hreceive]
    rfl
  | failure e =>
    have hreceive : (receive source k).run out s = (.error (.error e), s) := by
      rw [run, receive, ha]
    rw [hreceive]
    rfl
  | body octets =>
    have hreceive : (receive source k).run out s = (.ok octets, s) := by rw [run, receive, ha]
    simp only [hreceive, run_bind, run_orFailure]
    cases hp : KeyDocument.parse octets with
    | error f => simp [keysIn, hp]
    | ok report =>
      simp only [keysIn, hp, mapError_ok, run_logAll]
      by_cases he : report.keys.isEmpty
      · simp [he, run_log, run_bind, run_pure, reportLines]
      · simp [he, run_pure, reportLines]

/-- **The pieces make a fetch.** -/
theorem run_fetchKeys_pieces :
    (fetchKeys source).run out s = (do
      let k ← askForKeys source
      let keys ← readKeys source k
      let moment ← dateKeys
      depositKeys source keys moment : Action HeldKeys).run out s := by
  cases hrun : (fetchKeys source).run out s with
  | mk r s' =>
    simp only [run_bind, run_askForKeys, run_readKeys]
    cases fetching_of_run hrun with
    | crashed h => simp only [h]
    | failed h => simp only [h]
    | undated h hd => simp [h, run_dateKeys, hd]
    | stored h hd =>
      simp only [h, run_dateKeys, State.logging_keys, State.logging_readings, State.asking_keys,
        State.asking_readings, hd, if_true]
      rfl

/-! ## 2. The two stages -/

/-- Gets the keys that are wanted, and says where they came from. -/
def Wanted.obtain (w : Wanted) : Action (HeldKeys × Origin) := do
  match ← w.lookFirst with
  | some held => return (held, .cache)
  | none =>
    match ← w.look with
    | some held => return (held, .cache)
    | none => return (← fetchKeys w.source, .network)

/-- **Refreshing** is to obtain keys that are not older than the request allows. -/
theorem run_refreshKeys_stages :
    (refreshKeys source).run out s = (do
      let requestedAt ← now
      let (held, _) ← Wanted.obtain ⟨source, some requestedAt⟩
      return held : Action HeldKeys).run out s := by
  simp only [refreshKeys, beginRefresh, refreshKeysExclusively, Wanted.obtain, Wanted.lookFirst,
    Wanted.look, run_bind, run_now, run_lookForRecentKeys]
  cases ht : s.keys.intervalTold source with
  | false => simp [ht]
  | true => ?_
  cases h₁ : s.keys.recent? source (out.clock s.readings) (out.clock (s.readings + 1)) with
  | some held => simp [ht, h₁, run_bind, run_pure, run_log]
  | none =>
    simp only [State.advance_keys, State.advance_readings, ht, if_true, h₁, Option.isSome_none,
      Bool.false_eq_true, if_false, Bool.and_false, run_pure, run_bind, run_lookForRecentKeys]
    cases h₂ : s.keys.recent? source (out.clock s.readings)
        (out.clock (s.readings + 1 + 1)) with
    | some held => simp [run_pure]
    | none =>
      simp only [State.advance_advance, run_bind]
      cases (fetchKeys source).run out (s.advance (1 + 1 + 1)) with
      | mk r s' => cases r <;> rfl

/-- Whether it can be told if an entry will do: it can, unless a refresh asks for the end of an
interval that cannot be told. -/
def Wanted.isTold (w : Wanted) (c : KeyCache) : Bool :=
  w.requestedAt.isNone || c.intervalTold w.source

/-- The set that will do at some moment. -/
def Wanted.found? (w : Wanted) (c : KeyCache) (now : Instant) : Option HeldKeys :=
  match w.requestedAt with
  | none => c.live? w.source now
  | some requestedAt => c.recent? w.source requestedAt now

/-- **A look reads the clock once** and changes nothing else, or it crashes. -/
theorem run_look : w.look.run out s = if w.isTold s.keys then
    (.ok (w.found? s.keys (out.clock s.readings)), s.advance 1) else (.error .crash, s) := by
  obtain ⟨source, requestedAt⟩ := w
  cases requestedAt with
  | none => rfl
  | some requestedAt => exact run_lookForRecentKeys requestedAt

/-! ## 3. Nobody in the way -/

namespace Crowd

variable {n : Nat} {c d : Crowd n} {t : Fin n} {p : Place} {g : Gate} {shut : Option Gate}
  {Q Q' : Crowd n → Prop}

@[simp] theorem put_place_self : (c.put t p).place t = p := by
  simp [put]

theorem put_place_of_ne {u : Fin n} (h : u ≠ t) : (c.put t p).place u = c.place u := by
  simp [put, h]

theorem after_concat (out : Surroundings) (c : Crowd n) (moves : List (Move n)) (move : Move n) :
    c.after out (moves ++ [move]) = (c.after out moves).next out move :=
  List.foldl_append

theorem takeToRead_eq_some_iff :
    c.takeToRead = some d ↔ c.writing = false ∧ d = { c with readers := c.readers + 1 } := by
  simp only [takeToRead, Option.ite_none_left_eq_some, Option.some.injEq, Bool.not_eq_true]
  exact and_congr_right fun _ => eq_comm

theorem takeToWrite_eq_some_iff :
    c.takeToWrite = some d ↔
      (c.writing = false ∧ c.readers = 0) ∧ d = { c with writing := true } := by
  simp only [takeToWrite, Option.ite_none_left_eq_some, Option.some.injEq, Bool.or_eq_true,
    bne_iff_ne, not_or, Bool.not_eq_true, Decidable.not_not]
  exact and_congr_right fun _ => eq_comm

theorem takeRegister_eq_some_iff :
    c.takeRegister t = some d ↔ c.registrar = none ∧ d = { c with registrar := some t } := by
  simp only [takeRegister, Option.ite_none_left_eq_some, Option.some.injEq,
    Option.not_isSome_iff_eq_none]
  exact and_congr_right fun _ => eq_comm

theorem takeGate_eq_some_iff :
    c.takeGate t g = some d ↔ c.keeper g = none ∧ d = c.setKeeper g (some t) := by
  simp only [takeGate, Option.ite_none_left_eq_some, Option.some.injEq,
    Option.not_isSome_iff_eq_none]
  exact and_congr_right fun _ => eq_comm

/-- **A caller stands alone** at some place: the locks are free, but for a gate that is closed
behind it. -/
structure Stands (t : Fin n) (shut : Option Gate) (p : Place) (s : State) (c : Crowd n) :
    Prop where
  place : c.place t = p
  state : c.state = s
  writing : c.writing = false
  readers : c.readers = 0
  registrar : c.registrar = none
  keeper : ∀ g, c.keeper g = if some g = shut then some t else none

/-- A caller comes, by its own steps, to where something holds. -/
def Comes (out : Surroundings) (t : Fin n) (c : Crowd n) (Q : Crowd n → Prop) : Prop :=
  ∃ m, Q (c.after out (List.replicate m (.go t)))

namespace Comes

theorem here (h : Q c) : Comes out t c Q := ⟨0, h⟩

theorem step (h : c.step out t = some d) (hd : Comes out t d Q) : Comes out t c Q := by
  obtain ⟨m, hm⟩ := hd
  refine ⟨m + 1, ?_⟩
  rw [List.replicate_succ, after, List.foldl_cons, next, h]
  exact hm

theorem trans (h : Comes out t c Q) (h' : ∀ c', Q c' → Comes out t c' Q') : Comes out t c Q' := by
  obtain ⟨m, hm⟩ := h
  obtain ⟨m', hm'⟩ := h' _ hm
  refine ⟨m + m', ?_⟩
  rw [← List.replicate_append_replicate, after, List.foldl_append]
  exact hm'

end Comes

namespace Stands

theorem put (h : Stands t shut p s c) (p' : Place) : Stands t shut p' s (c.put t p') where
  place := by simp [Crowd.put]
  state := h.state
  writing := h.writing
  readers := h.readers
  registrar := h.registrar
  keeper := h.keeper

theorem doing {α : Type} (h : Stands t shut p s c) (x : Action α)
    (goOn : Except Failure α → Place) :
    Stands t shut (goOn (x.run out s).1) (x.run out s).2 (c.doing out t x goOn) := by
  obtain ⟨-, rfl, hwriting, hreaders, hregistrar, hkeeper⟩ := h
  exact ⟨by simp [Crowd.doing, Crowd.put], rfl, hwriting, hreaders, hregistrar, hkeeper⟩

/-- A caller does something by itself. -/
theorem act {α : Type} (h : Stands t shut p s c) (x : Action α) (goOn : Except Failure α → Place)
    (hstep : c.step out t = some (c.doing out t x goOn)) :
    Comes out t c (Stands t shut (goOn (x.run out s).1) (x.run out s).2) :=
  .step hstep (.here (h.doing x goOn))

/-- A caller reads the entries. -/
theorem read {α : Type} (h : Stands t shut p s c) (p₁ : Place) (x : Action α)
    (goOn : Except Failure α → Place) (htake : c.step out t = c.takeToRead.map (·.put t p₁))
    (hend : ∀ c₁ : Crowd n, c₁.place t = p₁ →
      c₁.step out t = some (c₁.endReading.doing out t x goOn)) :
    Comes out t c (Stands t shut (goOn (x.run out s).1) (x.run out s).2) := by
  refine .step (d := { c with readers := c.readers + 1 }.put t p₁) ?_ ?_
  · rw [htake, takeToRead_eq_some_iff.mpr ⟨h.writing, rfl⟩]
    rfl
  · exact .step (hend _ put_place_self) (.here (doing (h.put p₁) x goOn))

/-- A caller changes the entries. -/
theorem write {α : Type} (h : Stands t shut p s c) (p₁ : Place) (x : Action α)
    (goOn : Except Failure α → Place) (htake : c.step out t = c.takeToWrite.map (·.put t p₁))
    (hend : ∀ c₁ : Crowd n, c₁.place t = p₁ →
      c₁.step out t = some (c₁.endWriting.doing out t x goOn)) :
    Comes out t c (Stands t shut (goOn (x.run out s).1) (x.run out s).2) := by
  refine .step (d := { c with writing := true }.put t p₁) ?_ ?_
  · rw [htake, takeToWrite_eq_some_iff.mpr ⟨⟨h.writing, h.readers⟩, rfl⟩]
    rfl
  · have hfree : Stands t shut p₁ s (c.put t p₁) := h.put p₁
    have hended : Stands t shut p₁ s ({ c with writing := true }.put t p₁).endWriting :=
      ⟨hfree.place, hfree.state, rfl, hfree.readers, hfree.registrar, hfree.keeper⟩
    exact .step (hend _ put_place_self) (.here (hended.doing x goOn))

/-- The first look. -/
theorem look (h : Stands t none (.asking w) s c) :
    Comes out t c
      (Stands t none (.ofLook w (w.lookFirst.run out s).1) (w.lookFirst.run out s).2) :=
  h.read (.looking w) w.lookFirst (.ofLook w) (by rw [Crowd.step, h.place])
    fun c₁ h₁ => by rw [Crowd.step, h₁]

/-- The second look. -/
theorem check (h : Stands t (some g) (.inside w g .admitted) s c) :
    Comes out t c (Stands t (some g) (.inside w g (.ofLook (w.look.run out s).1))
      (w.look.run out s).2) :=
  h.read (.inside w g .checking) w.look (fun r => .inside w g (.ofLook r))
    (by rw [Crowd.step, h.place]; rfl) fun c₁ h₁ => by rw [Crowd.step, h₁]; rfl

/-- A caller who found nothing comes to the gate of its source. -/
theorem queue (h : Stands t none (.unhelped w) s c) :
    ∃ g, Comes out t c (Stands t none (.inside w g .queued) s) := by
  have enrolled : ∃ g, ∃ c₂ : Crowd n,
      ({ c with registrar := some t }.put t (.registering w)).enroll t w = c₂ ∧
      c₂.place t = .enrolling w g ∧
      Stands t none (.inside w g .queued) s
        ((c₂.setHandles g (c₂.handles g + 1)).freeRegister.put t (.inside w g .queued)) := by
    rw [enroll]
    cases ({ c with registrar := some t }.put t (.registering w)).gate? w.source with
    | some g =>
      exact ⟨g, _, rfl, put_place_self, put_place_self, h.state, h.writing, h.readers, rfl,
        h.keeper⟩
    | none =>
      exact ⟨c.nextGate, _, rfl, put_place_self, put_place_self, h.state, h.writing, h.readers,
        rfl, h.keeper⟩
  obtain ⟨g, c₂, henroll, hplace, hqueued⟩ := enrolled
  refine ⟨g, .step (d := { c with registrar := some t }.put t (.registering w)) ?_ ?_⟩
  · rw [Crowd.step, h.place, takeRegister_eq_some_iff.mpr ⟨h.registrar, rfl⟩]
    rfl
  · refine .step (d := c₂) (by rw [Crowd.step, put_place_self, ← henroll]) ?_
    exact .step (by rw [Crowd.step, hplace]) (.here hqueued)

/-- A caller is let through. -/
theorem letThrough (h : Stands t none (.inside w g .queued) s c) :
    Comes out t c (Stands t (some g) (.inside w g .admitted) s) := by
  have hopen : c.keeper g = none := h.keeper g
  refine .step (d := (c.setKeeper g (some t)).put t (.inside w g .admitted)) ?_ (.here ?_)
  · simp [Crowd.step, h.place, stepInside, takeGate_eq_some_iff.mpr ⟨hopen, rfl⟩]
  · refine ⟨put_place_self, h.state, h.writing, h.readers, h.registrar, fun g' => ?_⟩
    have hkeeper := h.keeper g'
    by_cases hg : g' = g
    · simp [Crowd.put, setKeeper, hg]
    · simpa [Crowd.put, setKeeper, hg] using hkeeper

/-- A caller who is let through fetches the keys, if it finds nothing. -/
theorem fetch (h : Stands t (some g) (.inside w g .bound) s c) :
    Comes out t c (Stands t (some g)
      (.inside w g (.done (((fetchKeys w.source).run out s).1.map fun held => (held, .network))))
      ((fetchKeys w.source).run out s).2) := by
  refine (h.act (askForKeys w.source) (fun r => .inside w g (.ofAsked r))
    (by rw [Crowd.step, h.place]; rfl)).trans fun c₁ h₁ => ?_
  rw [run_askForKeys] at h₁
  refine (h₁.act (readKeys w.source s.requests.length) (fun r => .inside w g (.ofRead _ r))
    (by rw [Crowd.step, h₁.place]; rfl)).trans fun c₂ h₂ => ?_
  rw [run_fetchKeys_pieces, run_bind, run_askForKeys]
  simp only [run_bind]
  cases hread : (readKeys w.source s.requests.length).run out
      (s.asking (fetchLine w.source) w.source) with
  | mk r s₂ =>
    rw [hread] at h₂
    cases r with
    | error f => exact .here h₂
    | ok keys =>
      refine (h₂.act dateKeys (fun r => .inside w g (.ofMoment s.requests.length keys r))
        (by rw [Crowd.step, h₂.place]; rfl)).trans fun c₃ h₃ => ?_
      simp only
      cases hdate : dateKeys.run out s₂ with
      | mk r s₃ =>
        rw [hdate] at h₃
        cases r with
        | error f => exact .here h₃
        | ok moment =>
          exact h₃.write (.inside w g (.storing _ keys moment)) (depositKeys w.source keys moment)
            (fun r => .inside w g (.ofStored r)) (by rw [Crowd.step, h₃.place]; rfl)
            fun c₄ h₄ => by rw [Crowd.step, h₄]; rfl

/-- A caller gives its handle back. -/
theorem part {r : Gotten} (h : Stands t none (.inside w g (.parting r)) s c) :
    Comes out t c (Stands t none (.returned (.keys r)) s) := by
  refine .step (by rw [Crowd.step, h.place]; rfl) (.here ?_)
  exact ⟨put_place_self, h.state, h.writing, h.readers, h.registrar, h.keeper⟩

/-- A caller opens the gate behind it. -/
theorem openGate {r : Gotten} (h : Stands t (some g) (.inside w g (.done r)) s c) :
    Comes out t c (Stands t none (.inside w g (.ofDone r)) s) := by
  refine .step (by rw [Crowd.step, h.place]; rfl) (.here ?_)
  refine ⟨put_place_self, h.state, h.writing, h.readers, h.registrar, fun g' => ?_⟩
  have hkeeper := h.keeper g'
  by_cases hg : g' = g
  · simp [Crowd.put, setKeeper, hg]
  · simpa [Crowd.put, setKeeper, hg] using hkeeper

/-- A caller looks after the gate. -/
theorem tidy {r : Gotten} (h : Stands t none (.inside w g (.leaving r)) s c) :
    Comes out t c (Stands t none (.inside w g (.parting r)) s) := by
  refine .step (d := { c with registrar := some t }.put t (.inside w g (.inspecting r))) ?_ ?_
  · simp [Crowd.step, h.place, stepInside, takeRegister_eq_some_iff.mpr ⟨h.registrar, rfl⟩]
  · refine .step (by rw [Crowd.step, put_place_self]; rfl) ?_
    rw [inspect]
    split
    · refine .step (by rw [Crowd.step, put_place_self]; rfl) (.here ?_)
      exact ⟨put_place_self, h.state, h.writing, h.readers, rfl, h.keeper⟩
    · exact .here ⟨put_place_self, h.state, h.writing, h.readers, rfl, h.keeper⟩

/-- A caller with a result comes out. -/
theorem leave {r : Gotten} (h : Stands t (some g) (.inside w g (.done r)) s c) :
    Comes out t c (Stands t none (.returned (.keys r)) s) := by
  have parted (c' : Crowd n) (h' : Stands t none (.inside w g (.leaving r)) s c') :
      Comes out t c' (Stands t none (.returned (.keys r)) s) :=
    h'.tidy.trans fun _ => part
  refine h.openGate.trans fun c₁ h₁ => ?_
  cases r with
  | ok got => exact parted c₁ h₁
  | error f =>
    cases f with
    | error e => exact parted c₁ h₁
    | crash => exact h₁.part

/-- **A caller alone obtains what it wants.** -/
theorem obtain (h : Stands t none (.asking w) s c) :
    Comes out t c (Stands t none (.returned (.keys (w.obtain.run out s).1))
      (w.obtain.run out s).2) := by
  refine h.look.trans fun c₁ h₁ => ?_
  rw [Wanted.obtain, run_bind]
  cases hfirst : w.lookFirst.run out s with
  | mk r₁ s₁ =>
    rw [hfirst] at h₁
    cases r₁ with
    | error f => exact .here h₁
    | ok found =>
      cases found with
      | some held => exact .here h₁
      | none =>
        obtain ⟨g, hqueue⟩ := queue h₁
        refine hqueue.trans fun c₂ h₂ => h₂.letThrough.trans fun c₃ h₃ => ?_
        refine h₃.check.trans fun c₄ h₄ => ?_
        simp only [run_bind]
        cases hsecond : w.look.run out s₁ with
        | mk r₂ s₂ =>
          rw [hsecond] at h₄
          cases r₂ with
          | error f => exact h₄.leave
          | ok found =>
            cases found with
            | some held => exact h₄.leave
            | none =>
              refine h₄.fetch.trans fun c₅ h₅ => ?_
              simp only [run_bind]
              cases hfetch : (fetchKeys w.source).run out s₂ with
              | mk r₃ s₃ =>
                rw [hfetch] at h₅
                cases r₃ with
                | error f => exact h₅.leave
                | ok held => exact h₅.leave

end Stands

/-! ## 4. Errands -/

/-- **Getting, alone.** -/
theorem get_alone (h : Stands t none p s c) (hfree : p.isFree = true) (source : KeySource) :
    Comes out t (c.next out (.start t (.get source)))
      (Stands t none (.returned (.keys ((getKeys source).run out s).1))
        ((getKeys source).run out s).2) := by
  have hstart : c.next out (.start t (.get source)) = c.put t (.asking ⟨source, none⟩) := by
    rw [next, start, h.place, hfree]
    rfl
  rw [hstart]
  exact (h.put _).obtain

/-- **Refreshing, alone.** -/
theorem refresh_alone (h : Stands t none p s c) (hfree : p.isFree = true) (source : KeySource) :
    Comes out t (c.next out (.start t (.refresh source))) fun c' =>
      ∃ r : Gotten, ((refreshKeys source).run out s).1 = r.map (·.1) ∧
        Stands t none (.returned (.keys r)) ((refreshKeys source).run out s).2 c' := by
  have hstart : c.next out (.start t (.refresh source)) =
      c.doing out t now (.ofRequested source) := by
    rw [next, start, h.place, hfree]
    rfl
  rw [hstart]
  refine (h.doing now (.ofRequested source)).obtain.trans fun c' h' => .here ?_
  rw [run_refreshKeys_stages, run_bind, run_now]
  simp only [run_bind]
  cases hrun : (Wanted.obtain ⟨source, some (out.clock s.readings)⟩).run out (s.advance 1) with
  | mk r s' =>
    have hstands : Stands t none (.returned (.keys r)) s' c' := by
      have hend : (Wanted.obtain ⟨source, some (out.clock s.readings)⟩).run out
        (now.run out s).2 = (r, s') := hrun
      rw [hend] at h'
      exact h'
    cases r with
    | error f => exact ⟨.error f, rfl, hstands⟩
    | ok got => exact ⟨.ok got, rfl, hstands⟩

/-- **Forgetting, alone.** -/
theorem clear_alone (h : Stands t none p s c) (hfree : p.isFree = true) :
    Comes out t (c.next out (.start t .clear))
      (Stands t none (.returned .cleared) (clearKeys.run out s).2) := by
  have hstart : c.next out (.start t .clear) = c.put t .clearing := by
    rw [next, start, h.place, hfree]
    rfl
  rw [hstart]
  have hclearing := h.put .clearing
  exact hclearing.write .emptying clearKeys (fun _ => .returned .cleared)
    (by rw [Crowd.step, hclearing.place]) fun c₁ h₁ => by rw [Crowd.step, h₁]

end Crowd
end Retrieval
end TokenTrust

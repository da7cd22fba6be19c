/-
# No deadlock

As long as anybody is under way, somebody can take a step (`Attended.exists_step`).  That takes it
for granted that whoever wants to read the entries may do so unless somebody changes them.  A lock
may be stricter: who wants to read may have to let those pass who wait to change the entries, and
then a reader who holds nobody up might be held up itself.

It makes no difference (`Attended.exists_canGo`).  Whoever waits to change the entries waits for
readers only, readers wait for nothing, and nobody who reads the entries wants to read them again
before it has ended.  Since each step brings somebody nearer to its return, the callers can all go
on until they have returned, wherever they are (`Attended.exists_steps`).
-/
import TokenTrust.Proofs.Progress

namespace TokenTrust
namespace Retrieval

open TokenTrust.Action

/-! ## 1. Who waits for the entries -/

/-- Whether a caller waits to read the entries. -/
def Place.awaitsReading : Place → Bool
  | .asking _ | .inside _ _ .admitted | .measuring => true
  | _ => false

/-- Whether a caller waits to change the entries. -/
def Place.awaitsWriting : Place → Bool
  | .inside _ _ (.dated _ _ _) | .clearing => true
  | _ => false

namespace Place

variable {p : Place}

/-- Nobody waits for both. -/
theorem awaitsReading_of_awaitsWriting (h : p.awaitsWriting = true) : p.awaitsReading = false := by
  cases p with
  | inside w g phase =>
    cases phase with
    | dated k keys moment => rfl
    | _ => cases h
  | clearing => rfl
  | _ => cases h

/-- Whoever reads the entries does not wait to read them. -/
theorem awaitsReading_of_reads (h : p.reads = true) : p.awaitsReading = false := by
  cases p with
  | inside w g phase =>
    cases phase with
    | checking => rfl
    | _ => cases h
  | looking w => rfl
  | counting => rfl
  | _ => cases h

end Place

/-! ## 2. Somebody can go on -/

namespace Crowd

variable {n : Nat} {c : Crowd n} {t u : Fin n} {out : Surroundings}

/-- **A caller can go on**: it can take its next step, and if it has to read the entries for that,
nobody waits to change them. -/
def CanGo (out : Surroundings) (c : Crowd n) (t : Fin n) : Prop :=
  c.step out t ≠ none ∧
    ((c.place t).awaitsReading = true → ∀ u, (c.place u).awaitsWriting = false)

/-- Nobody changes the entries when somebody may read them. -/
theorem writing_of_awaitsReading (h : (c.place t).awaitsReading = true)
    (hstep : c.step out t ≠ none) : c.writing = false := by
  cases hw : c.writing with
  | false => rfl
  | true =>
    have hnone : c.takeToRead = none := by simp [takeToRead, hw]
    refine absurd ?_ hstep
    rw [Crowd.step]
    cases hp : c.place t with
    | idle => rfl
    | returned o => rfl
    | asking w => simp [hnone]
    | measuring => simp [hnone]
    | inside w g phase =>
      rw [hp] at h
      cases phase with
      | admitted => simp [stepInside, hnone]
      | _ => cases h
    | _ => rw [hp] at h; cases h

/-- Where nobody has the entries, whoever waits to change them can do it. -/
theorem step_ne_none_of_awaitsWriting (hw : c.writing = false) (hr : c.readers = 0)
    (h : (c.place t).awaitsWriting = true) : c.step out t ≠ none := by
  rw [Crowd.step]
  cases hp : c.place t with
  | clearing => simp [takeToWrite, hw, hr]
  | inside w g phase =>
    rw [hp] at h
    cases phase with
    | dated k keys moment => simp [stepInside, takeToWrite, hw, hr]
    | _ => cases h
  | _ => rw [hp] at h; cases h

namespace Attended

/-- **As long as anybody is under way, somebody can go on**, even if whoever waits to change the
entries comes before those who wait to read them. -/
theorem exists_canGo (ha : c.Attended) (out : Surroundings) (h : (c.place t).isFree = false) :
    ∃ u, c.CanGo out u := by
  obtain ⟨u, hu⟩ := ha.exists_step out h
  cases hreading : (c.place u).awaitsReading with
  | false => exact ⟨u, hu, fun h => nomatch hreading.symm.trans h⟩
  | true =>
    by_cases hnobody : ∀ v, (c.place v).awaitsWriting = false
    · exact ⟨u, hu, fun _ => hnobody⟩
    obtain ⟨v, hv⟩ := not_forall.mp hnobody
    have hwaits : (c.place v).awaitsWriting = true := by simpa using hv
    have hw : c.writing = false := writing_of_awaitsReading hreading hu
    -- `v` waits for readers, or for nothing
    by_cases hr : c.readers = 0
    · refine ⟨v, step_ne_none_of_awaitsWriting hw hr hwaits, fun h => ?_⟩
      exact nomatch (Place.awaitsReading_of_awaitsWriting hwaits).symm.trans h
    · have hpos : 0 < (Finset.univ.filter fun t => (c.place t).reads = true).card :=
        ha.readers ▸ Nat.pos_of_ne_zero hr
      obtain ⟨x, hx⟩ := Finset.card_pos.mp hpos
      have hreads : (c.place x).reads = true := by simpa using hx
      refine ⟨x, step_ne_none_of_reads hreads, fun h => ?_⟩
      exact nomatch (Place.awaitsReading_of_reads hreads).symm.trans h

/-- **The callers can go on until all have returned.** -/
theorem exists_steps (ha : c.Attended) (out : Surroundings) :
    ∃ ts : List (Fin n), c.taken out (ts.map .go) = ts.length ∧
      ∀ t, ((c.after out (ts.map .go)).place t).isFree = true := by
  -- each step that is taken leaves fewer to be taken
  induction hleft : c.left using Nat.strong_induction_on generalizing c with
  | h k ih =>
    by_cases hfree : ∀ t, (c.place t).isFree = true
    · exact ⟨[], rfl, hfree⟩
    obtain ⟨t, ht⟩ := not_forall.mp hfree
    obtain ⟨u, hu⟩ := ha.exists_step out (t := t) (by simpa using ht)
    obtain ⟨c', hc'⟩ := Option.ne_none_iff_exists'.mp hu
    obtain ⟨ts, htaken, hreturned⟩ := ih c'.left (hleft ▸ left_step hc') (ha.step hc') rfl
    have hnext : c.next out (.go u) = c' := by rw [Crowd.next, hc']; rfl
    refine ⟨u :: ts, ?_, ?_⟩
    · rw [List.map_cons, taken, hc', hnext, htaken]
      simp [Nat.add_comm]
    · rw [List.map_cons, Crowd.after, List.foldl_cons, hnext]
      exact hreturned

end Attended

/-- **There is no deadlock.**  Any callers make any moves, in any surroundings.  Then as long as
somebody has not returned, somebody can go on, even if a caller who wants to read the entries has to
let those pass who wait to change them.  And there are steps that can be taken, one after another,
until everybody has returned. -/
theorem somebody_can_go_on (out : Surroundings) (n : Nat) (s : State) (moves : List (Move n)) :
    let c : Crowd n := ({ state := s } : Crowd n).after out moves
    (∀ t, (c.place t).isFree = false → ∃ u, c.CanGo out u) ∧
      ∃ ts : List (Fin n), c.taken out (ts.map .go) = ts.length ∧
        ∀ t, ((c.after out (ts.map .go)).place t).isFree = true := by
  intro c
  have hquiet : ({ state := s } : Crowd n).Quiet :=
    ⟨fun _ => rfl, rfl, fun _ => rfl, rfl, rfl⟩
  have ha : c.Attended := hquiet.attended.after out moves
  exact ⟨fun t ht => ha.exists_canGo out ht, ha.exists_steps out⟩

/-- One caller has fetched keys and waits to store them, one waits at its gate, one reads the
entries, and one wants to read them.  The first two cannot go on, nor can the last one if it has to
let the first one pass. -/
theorem somebody_can_go_on_reader :
    let source : KeySource := ⟨⟨"https", some ⟨"", none, some (.domain "my.auth.com"), none⟩,
      .segments ["token_keys"], none, none⟩, none⟩
    let out : Surroundings := ⟨fun n => Duration.ofSeconds n, 0,
      fun _ _ => .body (Text.Utf8.bytes "\x7b\x22keys\x22:[]\x7d")⟩
    let moves : List (Move 4) := .start 0 (.get source) :: .start 1 (.get source) ::
      List.replicate 5 (.go 0) ++ List.replicate 5 (.go 1) ++ List.replicate 6 (.go 0) ++
        [.start 2 .size, .go 2, .start 3 .size]
    let c : Crowd 4 := ({ state := {} } : Crowd 4).after out moves
    c.step out 0 = none ∧ c.step out 1 = none ∧
      ((c.place 3).awaitsReading = true ∧ (c.place 0).awaitsWriting = true) ∧
      ∃ u, c.CanGo out u := by
  intro source out moves c
  have hstuck : (c.step out 0).isNone = true ∧ (c.step out 1).isNone = true := by decide +kernel
  have hwaits : (c.place 3).awaitsReading = true ∧ (c.place 0).awaitsWriting = true := by
    decide +kernel
  have hfree : (c.place 0).isFree = false := by decide +kernel
  refine ⟨Option.isNone_iff_eq_none.mp hstuck.1, Option.isNone_iff_eq_none.mp hstuck.2, hwaits, ?_⟩
  have hgoes := (somebody_can_go_on out 4 {} moves).1 0
  have hc : ({ state := {} } : Crowd 4).after out moves = c := rfl
  rw [hc] at hgoes
  exact hgoes hfree

end Crowd
end Retrieval
end TokenTrust

/-
# One caller after another

Callers who never meet: each sets out when nobody is under way, and returns before the next one sets
out.  Each of them gets what the operation that it came for gives, in the state that the others have
left, and it leaves every lock free (`Quiet.turns`).  So what is shown about operations one after
another, which know nothing of locks, holds of callers who have to take them.
-/
import TokenTrust.Proofs.Locality
import TokenTrust.Proofs.Progress

namespace TokenTrust

open TokenTrust.Action TokenTrust.Retrieval

namespace Operation

/-- The errand of a caller who comes for an operation on the cache of key sets. -/
def errand? : Operation → Option Errand
  | .get source => some (.get source)
  | .refresh source => some (.refresh source)
  | .clear => some .clear
  | _ => none

/-- What a caller who came for an operation is told. -/
def told (op : Operation) : Outcome → Except Failure Gain
  | .keys r => r.map fun (held, origin) =>
    match op with
    | .refresh _ => .keys held none
    | _ => .keys held (some origin)
  | _ => .ok .nothing

end Operation

namespace Retrieval
namespace Crowd

variable {n : Nat} {c c' : Crowd n} {t u : Fin n} {out : Surroundings}

/-- **Callers come one after another**, each for an operation, and are told something. -/
inductive Turns (out : Surroundings) :
    Crowd n → List (Fin n × Operation) → List (Except Failure Gain) → Crowd n → Prop
  | nil {c : Crowd n} : Turns out c [] [] c
  /-- A caller sets out and goes on until it has returned. -/
  | cons {c c' : Crowd n} {t : Fin n} {op : Operation} {errand : Errand} {o : Outcome} {m : Nat}
    {turns : List (Fin n × Operation)} {told : List (Except Failure Gain)}
    (herrand : op.errand? = some errand)
    (hreturned : ((c.next out (.start t errand)).after out (List.replicate m (.go t))).place t =
      .returned o)
    (hturns : Turns out ((c.next out (.start t errand)).after out (List.replicate m (.go t)))
      turns told c') :
    Turns out c ((t, op) :: turns) (op.told o :: told) c'

/-- Nobody else goes anywhere while a caller goes on. -/
theorem place_after_replicate (hu : u ≠ t) (c : Crowd n) (m : Nat) :
    (c.after out (List.replicate m (.go t))).place u = c.place u := by
  induction m generalizing c with
  | zero => rfl
  | succ m ih =>
    have hnext : (c.next out (.go t)).place u = c.place u := by
      refine next_cases (P := fun d => d.place u = c.place u) out c (.go t) rfl
        (fun _ _ _ hmove => nomatch hmove) fun v c' hmove h => ?_
      obtain rfl := Move.go.inj hmove
      exact place_step_of_ne h hu
    rw [List.replicate_succ]
    exact (ih (c.next out (.go t))).trans hnext

namespace Quiet

theorem stands (h : c.Quiet) (t : Fin n) : Stands t none (c.place t) c.state c where
  place := rfl
  state := rfl
  writing := h.writing
  readers := h.readers
  registrar := h.registrar
  keeper g := by simp [h.keeper g]

/-- A caller who has returned, and had nobody in its way, leaves nothing behind. -/
theorem of_stands {o : Outcome} {s : State} (h : Stands t none (.returned o) s c)
    (hothers : ∀ u, u ≠ t → (c.place u).isFree = true) : c.Quiet where
  free u := by
    by_cases hut : u = t
    · rw [hut, h.place]
      rfl
    · exact hothers u hut
  registrar := h.registrar
  keeper g := by simp [h.keeper g]
  readers := h.readers
  writing := h.writing

/-- **A caller who comes alone** is told what its operation gives, and leaves everything quiet. -/
theorem turn (h : c.Quiet) (out : Surroundings) (t : Fin n) {op : Operation} {errand : Errand}
    (herrand : op.errand? = some errand) : ∃ m o,
    let c' := (c.next out (.start t errand)).after out (List.replicate m (.go t))
    c'.place t = .returned o ∧ op.told o = c.state.reply out op ∧ c'.Quiet ∧
      c'.state = c.state.next out op := by
  have others (u : Fin n) (hu : u ≠ t) (m : Nat) :
      (((c.next out (.start t errand)).after out (List.replicate m (.go t))).place u).isFree =
        true := by
    have hstart : (c.next out (.start t errand)).place u = c.place u := by
      refine next_cases (P := fun d => d.place u = c.place u) out c (.start t errand) rfl
        (fun v errand' c' hmove h => ?_) fun _ _ hmove => nomatch hmove
      obtain ⟨rfl, -⟩ := Move.start.inj hmove
      exact place_start_of_ne h hu
    rw [place_after_replicate hu, hstart]
    exact h.free u
  have returned {o : Outcome} {s : State}
      (hcomes : Comes out t (c.next out (.start t errand)) (Stands t none (.returned o) s))
      (htold : op.told o = c.state.reply out op) (hs : s = c.state.next out op) : ∃ m o,
      let c' := (c.next out (.start t errand)).after out (List.replicate m (.go t))
      c'.place t = .returned o ∧ op.told o = c.state.reply out op ∧ c'.Quiet ∧
        c'.state = c.state.next out op := by
    obtain ⟨m, hstands⟩ := hcomes
    exact ⟨m, o, hstands.place, htold, of_stands hstands fun u hu => others u hu m,
      hstands.state.trans hs⟩
  cases op with
  | get source =>
    obtain rfl := Option.some.inj herrand
    exact returned (get_alone (h.stands t) (h.free t) source) rfl rfl
  | refresh source =>
    obtain rfl := Option.some.inj herrand
    have halone : Comes out t (c.next out (.start t (.refresh source))) _ :=
      refresh_alone (h.stands t) (h.free t) source
    obtain ⟨m, r, hr, hstands⟩ := halone
    refine returned ⟨m, hstands⟩ ?_ rfl
    change r.map _ = ((refreshKeys source).run out c.state).1.map _
    rw [hr]
    cases r <;> rfl
  | clear =>
    obtain rfl := Option.some.inj herrand
    exact returned (clear_alone (h.stands t) (h.free t)) rfl rfl
  | _ => exact nomatch herrand

/-- **Callers who come one after another** are told what their operations give, one after another,
and in the end everything is quiet. -/
theorem turns (h : c.Quiet) (out : Surroundings) (turns : List (Fin n × Operation))
    (herrands : ∀ turn ∈ turns, turn.2.errand?.isSome = true) :
    ∃ c', Turns out c turns (c.state.replies out (turns.map (·.2))) c' ∧ c'.Quiet := by
  induction turns generalizing c with
  | nil => exact ⟨c, .nil, h⟩
  | cons turn turns ih =>
    obtain ⟨t, op⟩ := turn
    obtain ⟨errand, herrand⟩ := Option.isSome_iff_exists.mp (herrands _ List.mem_cons_self)
    obtain ⟨m, o, hreturned, htold, hquiet, hstate⟩ := h.turn out t herrand
    obtain ⟨c', hrest, hquiet'⟩ := ih hquiet fun turn hturn =>
      herrands turn (List.mem_cons_of_mem _ hturn)
    rw [hstate] at hrest
    refine ⟨c', ?_, hquiet'⟩
    rw [List.map_cons, State.replies, ← htold]
    exact .cons herrand hreturned hrest

end Quiet
end Crowd
end Retrieval
end TokenTrust

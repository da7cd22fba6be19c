/-
# Chains of chains

A chain is a validator, so it can be a member of another chain, and chains can be nested as deep as
one likes (`Validator.Tree`).  That makes no difference.  A tree of chains decides as the one chain
that has the leaves of the tree for its members, from left to right, and the same leaves are asked.

Which leaves are asked, and what is found, is a matter of the list of the leaves alone
(`Validator.Sweep`).  A tree does what is said of its leaves, by induction on the tree: a chain
writes to the log only when it refuses, so a member that accepts leaves the state in which its own
last leaf left it, and there the next member begins.  One chain is a tree as well, so nothing has to
be said twice.
-/
import TokenTrust.Check.Validator
import TokenTrust.Proofs.Action

namespace TokenTrust

open TokenTrust.Action

namespace Validator

variable {α : Type} {v : α → Validator} {out : Surroundings} {t : Token} {s s' s₁ s₂ : State}
  {r : Except Failure Verdict} {a : α} {as bs before after asked : List α}

/-- A validator that accepts a token leads to those behind it, and any other has the last word. -/
theorem run_allFrom_cons (v : Validator) (vs : List Validator) (index : Nat) :
    (allFrom index (v :: vs) t).run out s = match (v t).run out s with
      | (.ok .valid, s') => (allFrom (index + 1) vs t).run out s'
      | (.ok (.invalid d), s') => (.ok (.invalid d), s'.logging [refusalLine index d])
      | (.error f, s') => (.error f, s') := by
  rw [allFrom, run_bind]
  cases (v t).run out s with
  | mk r s' =>
    cases r with
    | error f => rfl
    | ok verdict => cases verdict <;> rfl

theorem run_allFrom_cons_of_valid {w : Validator} (h : (w t).run out s = (.ok .valid, s₁))
    (ws : List Validator) (index : Nat) :
    (allFrom index (w :: ws) t).run out s = (allFrom (index + 1) ws t).run out s₁ := by
  rw [run_allFrom_cons, h]

/-- Only the log tells that a validator that did not accept is a member of a chain. -/
theorem run_allFrom_cons_of_ne {w : Validator} (h : (w t).run out s = (r, s₁))
    (hr : r ≠ .ok .valid) (ws : List Validator) (index : Nat) :
    ∃ lines, (allFrom index (w :: ws) t).run out s = (r, s₁.logging lines) := by
  rw [run_allFrom_cons, h]
  cases r with
  | error f => exact ⟨[], by rw [State.logging_nil]⟩
  | ok verdict =>
    cases verdict with
    | valid => exact absurd rfl hr
    | invalid d => exact ⟨_, rfl⟩

/-! ## 1. Trees -/

/-- **Chains that are nested**, down to leaves of some kind. -/
inductive Tree (α : Type) where
  | leaf (a : α)
  | chain (members : List (Tree α))

namespace Tree

mutual

/-- The validator that a tree is if its leaves are validators. -/
def validator (v : α → Validator) : Tree α → Validator
  | leaf a => v a
  | chain members => Chain.validator ⟨validators v members⟩

/-- The validators that the members of a chain are. -/
def validators (v : α → Validator) : List (Tree α) → List Validator
  | [] => []
  | member :: members => member.validator v :: validators v members

end

mutual

/-- The leaves, from left to right. -/
def leaves : Tree α → List α
  | leaf a => [a]
  | chain members => leavesOf members

/-- The leaves of the members of a chain. -/
def leavesOf : List (Tree α) → List α
  | [] => []
  | member :: members => member.leaves ++ leavesOf members

end

/-- The tree that has no chain in its chain. -/
def flat (as : List α) : Tree α := .chain (as.map .leaf)

theorem leaves_flat (as : List α) : (flat as).leaves = as := by
  rw [flat, leaves]
  induction as with
  | nil => rfl
  | cons a as ih => rw [List.map_cons, leavesOf, ih, leaves, List.singleton_append]

theorem validator_flat (v : α → Validator) (as : List α) :
    (flat as).validator v = Chain.validator ⟨as.map v⟩ := by
  have h : validators v (as.map .leaf) = as.map v := by
    induction as with
    | nil => rfl
    | cons a as ih => rw [List.map_cons, validators, ih, validator, List.map_cons]
  rw [flat, validator, h]

end Tree

/-! ## 2. Asking leaves -/

/-- **Some leaves accept a token**, each in the state that the one before it has left. -/
inductive Pass (v : α → Validator) (out : Surroundings) (t : Token) :
    List α → State → State → Prop
  | nil {s : State} : Pass v out t [] s s
  | cons {a : α} {as : List α} {s s₁ s' : State}
    (h : (v a t).run out s = (.ok .valid, s₁)) (hs : Pass v out t as s₁ s') :
    Pass v out t (a :: as) s s'

/-- **Which leaves are asked** about a token, in their order, what is found, and the state that is
left: all of them if all accept, and otherwise those up to the first one that does not, which has
the last word. -/
inductive Sweep (v : α → Validator) (out : Surroundings) (t : Token) (leaves : List α) (s : State) :
    List α → Except Failure Verdict → State → Prop
  | accepted {s' : State} (h : Pass v out t leaves s s') :
    Sweep v out t leaves s leaves (.ok .valid) s'
  | stopped {before after : List α} {a : α} {s₁ s' : State} {r : Except Failure Verdict}
    (hleaves : leaves = before ++ a :: after) (hpass : Pass v out t before s s₁)
    (hrun : (v a t).run out s₁ = (r, s')) (hr : r ≠ .ok .valid) :
    Sweep v out t leaves s (before ++ [a]) r s'

theorem pass_append_iff :
    Pass v out t (as ++ bs) s s' ↔ ∃ s₁, Pass v out t as s s₁ ∧ Pass v out t bs s₁ s' := by
  constructor
  · intro h
    induction as generalizing s with
    | nil => exact ⟨s, .nil, h⟩
    | cons a as ih =>
      obtain _ | ⟨ha, hs⟩ := h
      obtain ⟨s₁, has, hbs⟩ := ih hs
      exact ⟨s₁, .cons ha has, hbs⟩
  · rintro ⟨s₁, has, hbs⟩
    induction has with
    | nil => exact hbs
    | cons ha _ ih => exact .cons ha (ih hbs)

/-- Something is found in every state. -/
theorem exists_sweep (v : α → Validator) (out : Surroundings) (t : Token) (leaves : List α)
    (s : State) : ∃ asked r s', Sweep v out t leaves s asked r s' := by
  induction leaves generalizing s with
  | nil => exact ⟨[], .ok .valid, s, .accepted .nil⟩
  | cons a leaves ih =>
    obtain ⟨r, s₁, ha⟩ : ∃ r s₁, (v a t).run out s = (r, s₁) := ⟨_, _, rfl⟩
    by_cases hr : r = .ok .valid
    · subst hr
      obtain ⟨asked, r, s', hsweep⟩ := ih s₁
      cases hsweep with
      | accepted hpass => exact ⟨_, _, _, .accepted (.cons ha hpass)⟩
      | stopped hleaves hpass hrun hr =>
        exact ⟨_, _, _, .stopped (congrArg (a :: ·) hleaves) (.cons ha hpass) hrun hr⟩
    · have hleaves : a :: leaves = [] ++ a :: leaves := rfl
      exact ⟨_, _, _, .stopped hleaves .nil ha hr⟩

/-! ## 3. A tree asks its leaves -/

namespace Tree

mutual

/-- A tree accepts what all its leaves accept, and leaves no trace of its own. -/
theorem run_of_pass : ∀ (tree : Tree α) {s s' : State}, Pass v out t tree.leaves s s' →
    (tree.validator v t).run out s = (.ok .valid, s')
  | leaf a, s, s', h => by
    rw [leaves] at h
    obtain _ | ⟨ha, _ | _⟩ := h
    rw [validator]
    exact ha
  | chain members, s, s', h => by
    rw [leaves] at h
    rw [validator]
    exact run_allFrom_of_pass members 0 h

theorem run_allFrom_of_pass : ∀ (members : List (Tree α)) (index : Nat) {s s' : State},
    Pass v out t (leavesOf members) s s' →
    (allFrom index (validators v members) t).run out s = (.ok .valid, s')
  | [], index, s, s', h => by
    rw [leavesOf] at h
    obtain _ | _ := h
    rfl
  | member :: members, index, s, s', h => by
    rw [leavesOf] at h
    obtain ⟨s₁, hmember, hmembers⟩ := pass_append_iff.mp h
    rw [validators, run_allFrom_cons_of_valid (run_of_pass member hmember)]
    exact run_allFrom_of_pass members (index + 1) hmembers

end

mutual

/-- The first leaf that does not accept has the last word, and each chain that it is in may add a
line to the log. -/
theorem run_of_stop : ∀ (tree : Tree α) {before after : List α} {s s₁ : State},
    tree.leaves = before ++ a :: after → Pass v out t before s s₁ →
    (v a t).run out s₁ = (r, s₂) → r ≠ .ok .valid →
    ∃ lines, (tree.validator v t).run out s = (r, s₂.logging lines)
  | leaf b, before, after, s, s₁, hleaves, hpass, hrun, _ => by
    rw [leaves, List.singleton_eq_append_iff] at hleaves
    obtain ⟨rfl, hab⟩ | ⟨-, hnil⟩ := hleaves
    · obtain ⟨rfl, -⟩ := List.cons_eq_cons.mp hab
      obtain _ | _ := hpass
      rw [validator]
      exact ⟨[], by rw [State.logging_nil, hrun]⟩
    · exact absurd hnil (List.cons_ne_nil _ _)
  | chain members, before, after, s, s₁, hleaves, hpass, hrun, hr => by
    rw [leaves] at hleaves
    rw [validator]
    exact run_allFrom_of_stop members 0 hleaves hpass hrun hr

theorem run_allFrom_of_stop : ∀ (members : List (Tree α)) (index : Nat) {before after : List α}
    {s s₁ : State}, leavesOf members = before ++ a :: after → Pass v out t before s s₁ →
    (v a t).run out s₁ = (r, s₂) → r ≠ .ok .valid →
    ∃ lines, (allFrom index (validators v members) t).run out s = (r, s₂.logging lines)
  | [], index, before, after, s, s₁, hleaves, _, _, _ => by
    rw [leavesOf] at hleaves
    exact absurd hleaves.symm (List.append_ne_nil_of_right_ne_nil _ (List.cons_ne_nil _ _))
  | member :: members, index, before, after, s, s₁, hleaves, hpass, hrun, hr => by
    -- the leaf is in a member further back, or in this one
    have behind (rest : List α) (hbefore : before = member.leaves ++ rest)
        (hrest : leavesOf members = rest ++ a :: after) :
        ∃ lines, (allFrom index (validators v (member :: members)) t).run out s =
          (r, s₂.logging lines) := by
      subst hbefore
      obtain ⟨s', hmember, hmembers⟩ := pass_append_iff.mp hpass
      rw [validators, run_allFrom_cons_of_valid (run_of_pass member hmember)]
      exact run_allFrom_of_stop members (index + 1) hrest hmembers hrun hr
    rw [leavesOf] at hleaves
    rcases List.append_eq_append_iff.mp hleaves with ⟨rest, hbefore, hrest⟩ | ⟨rest, hmember, hrest⟩
    · exact behind rest hbefore hrest
    · cases rest with
      | nil => exact behind [] (by rw [hmember, List.append_nil, List.append_nil]) hrest.symm
      | cons b rest =>
        obtain ⟨rfl, -⟩ := List.cons_eq_cons.mp hrest
        obtain ⟨lines, hstop⟩ := run_of_stop member hmember hpass hrun hr
        obtain ⟨more, hchain⟩ :=
          run_allFrom_cons_of_ne hstop hr (validators v members) index
        rw [validators, hchain, State.logging_logging]
        exact ⟨_, rfl⟩

end

/-- **A tree finds what is found by asking its leaves.** -/
theorem run_of_sweep (tree : Tree α) (h : Sweep v out t tree.leaves s asked r s') :
    ∃ lines, (tree.validator v t).run out s = (r, s'.logging lines) := by
  cases h with
  | accepted hpass => exact ⟨[], by rw [State.logging_nil, run_of_pass tree hpass]⟩
  | stopped hleaves hpass hrun hr => exact run_of_stop tree hleaves hpass hrun hr

end Tree

/-! ## 4. Which leaves were asked -/

/-- The validator calls no name. -/
def CallsNothing (v : Validator) : Prop :=
  ∀ (out : Surroundings) (t : Token) (s : State), ((v t).run out s).2.calls = s.calls

/-- Leaves that call their names when they are asked. -/
def calling (names : α → String) (v : α → Validator) (a : α) : Validator :=
  named (names a) (v a)

section Calling

variable {names : α → String}

theorem calls_of_run_calling (hv : (v a).CallsNothing)
    (h : (calling names v a t).run out s = (r, s')) : s'.calls = s.calls ++ [names a] := by
  have hrun : (v a t).run out (s.record (.called (names a))) = (r, s') := h
  have hcalls := hv out t (s.record (.called (names a)))
  rw [hrun] at hcalls
  rw [hcalls, State.calls, State.record, List.filterMap_append]
  rfl

theorem Pass.calls (hv : ∀ a, (v a).CallsNothing) (h : Pass (calling names v) out t as s s') :
    s'.calls = s.calls ++ as.map names := by
  induction h with
  | nil => rw [List.map_nil, List.append_nil]
  | cons ha _ ih =>
    rw [ih, calls_of_run_calling (hv _) ha, List.map_cons, List.append_assoc, List.singleton_append]

/-- Just the leaves that are asked have called their names. -/
theorem Sweep.calls (hv : ∀ a, (v a).CallsNothing)
    (h : Sweep (calling names v) out t as s asked r s') :
    s'.calls = s.calls ++ asked.map names := by
  cases h with
  | accepted hpass => exact hpass.calls hv
  | stopped _ hpass hrun =>
    rw [calls_of_run_calling (hv _) hrun, hpass.calls hv, List.append_assoc, List.map_append,
      List.map_singleton]

end Calling

/-! ## 5. Nesting -/

/-- **Nesting does not matter.**  Chains are nested in any way, down to leaves that are validators
of any kind, and perhaps there are chains without members among them.

* Whichever leaves are asked, there is an answer.
* The tree answers so, and so does the one chain of the leaves of the tree from left to right: both
  accept the token if every leaf accepts it, each in the state that the one before it has left, and
  otherwise both have the result of the first leaf that does not, with its description if it is a
  refusal.  The state is the one that the last leaf has left that was asked, but for lines that
  were logged after it.
* If the leaves call their names, and nothing else, then what is called, by the tree and by the one
  chain, are the names of the leaves up to the first one that does not accept, in their order, each
  once. -/
theorem nesting_does_not_matter (v : α → Validator) (tree : Tree α) (out : Surroundings)
    (t : Token) (s : State) :
    let nested (v : α → Validator) := (tree.validator v t).run out s
    let flat (v : α → Validator) := (Chain.validator ⟨tree.leaves.map v⟩ t).run out s
    (∃ asked r s', Sweep v out t tree.leaves s asked r s') ∧
      (∀ asked r s', Sweep v out t tree.leaves s asked r s' →
        (∃ lines, nested v = (r, s'.logging lines)) ∧ ∃ lines, flat v = (r, s'.logging lines)) ∧
      ∀ names : α → String, (∀ a, (v a).CallsNothing) → ∀ asked r s',
        Sweep (calling names v) out t tree.leaves s asked r s' →
          (nested (calling names v)).2.calls = s.calls ++ asked.map names ∧
            (flat (calling names v)).2.calls = s.calls ++ asked.map names := by
  intro nested flat
  -- one chain is a tree that has the same leaves
  have answers (v : α → Validator) {asked : List α} {r : Except Failure Verdict} {s' : State}
      (h : Sweep v out t tree.leaves s asked r s') :
      (∃ lines, nested v = (r, s'.logging lines)) ∧ ∃ lines, flat v = (r, s'.logging lines) := by
    refine ⟨tree.run_of_sweep h, ?_⟩
    rw [← Tree.leaves_flat tree.leaves] at h
    have hflat := (Tree.flat tree.leaves).run_of_sweep h
    rwa [Tree.validator_flat] at hflat
  refine ⟨exists_sweep v out t tree.leaves s, fun asked r s' h => answers v h, ?_⟩
  intro names hv asked r s' h
  obtain ⟨⟨lines, hnested⟩, ⟨lines', hflat⟩⟩ := answers (calling names v) h
  rw [hnested, hflat]
  simp only [State.logging_calls, h.calls hv, and_self]

/-- The second leaf refuses.  It is two chains further down, behind a chain without members. -/
theorem nesting_does_not_matter_second :
    let v (name : String) : Validator := fun _ =>
      pure (if name = "b" then .invalid "no b" else .valid)
    let tree : Tree String :=
      .chain [.chain [], .leaf "a", .chain [.chain [.leaf "b"], .chain []], .leaf "c"]
    let out : Surroundings := ⟨fun n => n, 0, fun _ _ => .crash⟩
    let t : Token := ⟨"", 0, [], [], []⟩
    (∃ lines, (tree.validator v t).run out {} = (.ok (.invalid "no b"), State.logging {} lines)) ∧
      ((tree.validator (calling id v) t).run out {}).2.calls = ["a", "b"] := by
  intro v tree out t
  obtain ⟨-, hanswers, hcalls⟩ := nesting_does_not_matter v tree out t {}
  have hleaves : tree.leaves = ["a"] ++ "b" :: ["c"] := rfl
  have hrefused : (Except.ok (.invalid "no b") : Except Failure Verdict) ≠ .ok .valid := by simp
  constructor
  · have hsweep : Sweep v out t tree.leaves {} ["a", "b"] (.ok (.invalid "no b")) {} :=
      .stopped hleaves (.cons rfl .nil) rfl hrefused
    exact (hanswers _ _ _ hsweep).1
  · have hsweep : Sweep (calling id v) out t tree.leaves {} ["a", "b"] (.ok (.invalid "no b"))
        (State.record (State.record {} (.called "a")) (.called "b")) :=
      .stopped hleaves (.cons rfl .nil) rfl hrefused
    exact (hcalls id (fun _ _ _ _ => rfl) _ _ _ hsweep).1

end Validator
end TokenTrust

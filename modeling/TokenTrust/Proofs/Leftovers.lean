/-
# What is left in the register

A caller who comes back from a gate inspects how many handles it has, and removes it if nobody else
needs it.  It gives its own handle back after that, when it does not use the register any more.  In
between, another caller may inspect the same gate, and sees a handle too many: the one of a caller
who is about to part.  Both leave the gate where it is, and nobody else will remove it.

Such an inspection is crossed (`Inspection.crossed`).  If nobody crashes behind a gate, this is the
only way for one to be left behind.  As long as somebody relies on a gate, somebody will inspect it;
if the last inspection of a gate was not crossed, then either the gate was removed or somebody who
has still to inspect it had a handle (`Filed.needed`).  So when nobody is under way, the gates in
the register are just those whose last inspection was crossed (`left_in_register_iff_crossed`).
-/
import TokenTrust.Proofs.Progress

namespace TokenTrust
namespace Retrieval

open TokenTrust.Action

/-! ## 1. Inspections -/

/-- That a caller inspects how many handles a gate has. -/
structure Inspection where
  source : KeySource
  gate : Gate
  /-- Whether somebody is about to part from the gate, who has inspected it before. -/
  crossed : Bool
  deriving DecidableEq

namespace Inspection

/-- The last inspection of a gate. -/
def last? (seen : List Inspection) (g : Gate) : Option Inspection :=
  (seen.filter (·.gate == g)).getLast?

variable {seen : List Inspection} {i : Inspection} {g : Gate}

theorem last?_concat_self (seen : List Inspection) (i : Inspection) :
    last? (seen ++ [i]) i.gate = some i := by
  simp [last?]

theorem last?_concat_of_ne (seen : List Inspection) (h : g ≠ i.gate) :
    last? (seen ++ [i]) g = last? seen g := by
  simp [last?, Ne.symm h]

theorem gate_of_last? (h : last? seen g = some i) : i.gate = g := by
  have hmem := List.mem_of_getLast? h
  simpa using (List.mem_filter.mp hmem).2

end Inspection

open Inspection

namespace Place

/-- The gate from which a caller is about to part. -/
def parts? : Place → Option Gate
  | .inside _ g (.parting _) => some g
  | _ => none

/-- The gate that a caller inspects in its next step, and the source that it is for. -/
def inspects? : Place → Option (KeySource × Gate)
  | .inside w g (.inspecting _) => some (w.source, g)
  | _ => none

variable {p : Place} {g : Gate} {source : KeySource}

theorem view_of_inspects? (h : p.inspects? = some (source, g)) :
    p.view = { handle := some g, relies := some (source, g), registers := true } := by
  cases p with
  | inside w g' phase =>
    cases phase with
    | inspecting r =>
      obtain ⟨rfl, rfl⟩ := Prod.mk.inj (Option.some.inj h)
      rfl
    | _ => exact nomatch h
  | _ => exact nomatch h

theorem handle_of_parts? (h : p.parts? = some g) : p.view.handle = some g := by
  cases p with
  | inside w g' phase =>
    cases phase with
    | parting r => exact h
    | _ => exact nomatch h
  | _ => exact nomatch h

theorem inspects?_of_parts? (h : p.parts? = some g) : p.inspects? = none := by
  cases p with
  | inside w g' phase =>
    cases phase with
    | parting r => rfl
    | _ => exact nomatch h
  | _ => exact nomatch h

/-- **Whoever has a handle relies on the gate**, unless it is about to part from it. -/
theorem exists_relies_of_handle (h : p.view.handle = some g) (hp : p.parts? ≠ some g) :
    ∃ source, p.view.relies = some (source, g) := by
  cases p with
  | inside w g' phase =>
    cases phase with
    | parting r => exact absurd h hp
    | _ =>
      obtain rfl : g' = g := Option.some.inj h
      exact ⟨w.source, rfl⟩
  | _ => exact nomatch h

/-- Whether a caller has crashed just now, behind a gate. -/
def crashed : Place → Bool
  | .inside _ _ (.done (.error .crash)) => true
  | _ => false

end Place

namespace Crowd

variable {n : Nat} {c c' : Crowd n} {t u : Fin n} {p : Place} {g : Gate} {source : KeySource}
  {out : Surroundings} {seen : List Inspection}

/-- Whether somebody is about to part from a gate. -/
def isCrossed (c : Crowd n) (g : Gate) : Bool := decide (∃ t, (c.place t).parts? = some g)

/-- The inspection that a move is, if it is one. -/
def inspection? (c : Crowd n) : Move n → Option Inspection
  | .start _ _ => none
  | .go t => (c.place t).inspects?.map fun (source, g) => ⟨source, g, c.isCrossed g⟩

/-- The inspections among some moves, in their order. -/
def inspections (out : Surroundings) (c : Crowd n) : List (Move n) → List Inspection
  | [] => []
  | move :: moves => (c.inspection? move).toList ++ inspections out (c.next out move) moves

theorem inspections_concat (c : Crowd n) (moves : List (Move n)) (move : Move n) :
    c.inspections out (moves ++ [move]) =
      c.inspections out moves ++ ((c.after out moves).inspection? move).toList := by
  induction moves generalizing c with
  | nil => simp [inspections, after]
  | cons m moves ih =>
    rw [List.cons_append, inspections, inspections, ih, List.append_assoc]
    rfl

theorem inspection?_of_eq_none (h : (c.place t).inspects? = none) :
    (c.inspection? (.go t)).toList = [] := by
  rw [inspection?, h]
  rfl

theorem inspection?_of_eq_some (h : (c.place t).inspects? = some (source, g)) :
    (c.inspection? (.go t)).toList = [⟨source, g, c.isCrossed g⟩] := by
  rw [inspection?, h]
  rfl

/-- Who wants to inspect a gate can do it. -/
theorem inspects?_of_step_eq_none (h : c.step out t = none) : (c.place t).inspects? = none := by
  cases ht : c.place t with
  | inside w g phase =>
    rw [Crowd.step, ht] at h
    cases phase with
    | inspecting r => cases h
    | _ => rfl
  | _ => rfl

/-! ## 2. Where nothing crashes -/

/-- Whether nobody crashes behind a gate during some moves, be it that a fetch crashes or that a
moment cannot be told. -/
def isCalm (out : Surroundings) (c : Crowd n) : List (Move n) → Bool
  | [] => true
  | move :: moves =>
    decide (∀ t, ((c.next out move).place t).crashed = false) && isCalm out (c.next out move) moves

theorem isCalm_concat (c : Crowd n) (moves : List (Move n)) (move : Move n) :
    c.isCalm out (moves ++ [move]) = true ↔ c.isCalm out moves = true ∧
      ∀ t, (((c.after out moves).next out move).place t).crashed = false := by
  induction moves generalizing c with
  | nil => simp [isCalm, after]
  | cons m moves ih =>
    rw [List.cons_append, isCalm, isCalm, Bool.and_eq_true, Bool.and_eq_true, ih, and_assoc]
    rfl

/-! ## 3. What a step does to the register -/

/-- **What a step does to the register**, and to what the caller has to do with gates. -/
inductive Filing (c : Crowd n) (t : Fin n) (c' : Crowd n) : Prop
  /-- Nothing, and the caller relies on the gate that it has relied on. -/
  | kept (hinspects : (c.place t).inspects? = none) (hregister : c'.register = c.register)
    (hremoves : (c'.place t).view.removes = none)
    (hrelies : ∀ p, (c.place t).view.relies = some p → (c'.place t).view.relies = some p)
  /-- A gate is put up. -/
  | added {source : KeySource} (hinspects : (c.place t).inspects? = none)
    (hregister : c'.register = c.register ++ [(source, c.nextGate)])
    (hremoves : (c'.place t).view.removes = none) (hbefore : (c.place t).view.relies = none)
    (hrelies : (c'.place t).view.relies = some (source, c.nextGate))
  /-- A gate is inspected, and the caller will remove it. -/
  | unshared {source : KeySource} {g : Gate} (hinspects : (c.place t).inspects? = some (source, g))
    (hregister : c'.register = c.register) (htwo : c.handles g = 2)
    (hremoves : (c'.place t).view.removes = some g)
    (hrelies : (c'.place t).view.relies = some (source, g))
  /-- A gate is inspected, and the caller will not remove it. -/
  | shared {source : KeySource} {g : Gate} (hinspects : (c.place t).inspects? = some (source, g))
    (hregister : c'.register = c.register)
    (hshared : ¬ (c.gate? source = some g ∧ c.handles g = 2))
    (hremoves : (c'.place t).view.removes = none)
  /-- A gate is removed. -/
  | removed {source : KeySource} {g : Gate} (hinspects : (c.place t).inspects? = none)
    (hregister : c'.register = c.register.eraseP (·.1 == source))
    (hbefore : (c.place t).view.removes = some g)
    (hrelies : (c.place t).view.relies = some (source, g))
    (hremoves : (c'.place t).view.removes = none)

/-- Whoever goes to a place where it is about to remove nothing, and relies on what it has relied
on, leaves the register alone. -/
theorem Filing.of_place {q : Place} (hp : c.place t = p) (hq : c'.place t = q)
    (hinspects : p.inspects? = none) (hregister : c'.register = c.register)
    (hremoves : q.view.removes = none)
    (hrelies : p.view.relies = none ∨ q.view.relies = p.view.relies) : Filing c t c' := by
  subst hp hq
  refine .kept hinspects hregister hremoves fun r h => ?_
  rcases hrelies with hnone | hsame
  · exact nomatch hnone.symm.trans h
  · exact hsame.trans h

/-- Where a caller is after a crash it relies on nothing; everywhere else it goes on relying on its
gate until it has inspected it. -/
theorem Stepping.filing (h : Stepping out c t p c') (hp : c.place t = p)
    (hcrashed : p.crashed = false) : Filing c t c' := by
  cases h with
  | asking => exact .of_place hp put_place_self rfl rfl rfl (Or.inl rfl)
  | looking =>
    refine .of_place hp (doing_place_self _ _) rfl rfl ?_ (Or.inl rfl)
    rw [Place.view_ofLook]
  | unhelped => exact .of_place hp put_place_self rfl rfl rfl (Or.inl rfl)
  | found => exact .of_place hp put_place_self rfl rfl rfl (Or.inl rfl)
  | @missed w h =>
    have hregister : (c.putUp w.source).register = c.register ++ [(w.source, c.nextGate)] := rfl
    exact .added (by rw [hp]; rfl) hregister (by rw [put_place_self]; rfl)
      (by rw [hp]; rfl) (by rw [put_place_self]; rfl)
  | enrolling => exact .of_place hp put_place_self rfl rfl rfl (Or.inr rfl)
  | queued => exact .of_place hp put_place_self rfl rfl rfl (Or.inr rfl)
  | admitted => exact .of_place hp put_place_self rfl rfl rfl (Or.inr rfl)
  | checking =>
    refine .of_place hp (doing_place_self _ _) rfl rfl ?_ (Or.inr ?_)
    all_goals
      rw [Place.view, Phase.view_ofLook]
      rfl
  | bound =>
    refine .of_place hp (doing_place_self _ _) rfl rfl ?_ (Or.inr ?_)
    all_goals
      rw [Place.view, Phase.view_ofAsked]
      rfl
  | fetching =>
    refine .of_place hp (doing_place_self _ _) rfl rfl ?_ (Or.inr ?_)
    all_goals
      rw [Place.view, Phase.view_ofRead]
      rfl
  | carrying =>
    refine .of_place hp (doing_place_self _ _) rfl rfl ?_ (Or.inr ?_)
    all_goals
      rw [Place.view, Phase.view_ofMoment]
      rfl
  | dated => exact .of_place hp put_place_self rfl rfl rfl (Or.inr rfl)
  | storing =>
    refine .of_place hp (doing_place_self _ _) rfl rfl ?_ (Or.inr ?_)
    all_goals
      rw [Place.view, Phase.view_ofStored]
      rfl
  | @done w g r =>
    have hview : (Place.inside w g (.ofDone r)).view =
        { handle := some g, relies := some (w.source, g) } := by
      cases r with
      | ok got => rfl
      | error f =>
        cases f with
        | error e => rfl
        | crash => cases hcrashed
    refine .of_place hp put_place_self rfl rfl ?_ (Or.inr ?_)
    · rw [hview]
    · rw [hview]
      rfl
  | leaving => exact .of_place hp put_place_self rfl rfl rfl (Or.inr rfl)
  | @unshared w g r h =>
    have hinspects : (c.place t).inspects? = some (w.source, g) := by
      rw [hp]
      rfl
    exact .unshared hinspects rfl h.2 (by rw [put_place_self]; rfl) (by rw [put_place_self]; rfl)
  | @shared w g r h =>
    have hinspects : (c.place t).inspects? = some (w.source, g) := by
      rw [hp]
      rfl
    exact .shared hinspects rfl h (by rw [put_place_self]; rfl)
  | @removing w g r =>
    have hrelies : (c.place t).view.relies = some (w.source, g) := by
      rw [hp]
      rfl
    exact .removed (by rw [hp]; rfl) rfl (by rw [hp]; rfl) hrelies (by rw [put_place_self]; rfl)
  | parting => exact .of_place hp put_place_self rfl rfl rfl (Or.inl rfl)
  | clearing => exact .of_place hp put_place_self rfl rfl rfl (Or.inl rfl)
  | emptying => exact .of_place hp (doing_place_self _ _) rfl rfl rfl (Or.inl rfl)
  | measuring => exact .of_place hp put_place_self rfl rfl rfl (Or.inl rfl)
  | counting => exact .of_place hp put_place_self rfl rfl rfl (Or.inl rfl)

/-! ## 4. The register and the last inspections -/

/-- Where a gate is listed once, no source but one has it. -/
theorem eq_of_once (h : (c.register.map (·.2)).Nodup) {source' : KeySource}
    (hp : (source, g) ∈ c.register) (hq : (source', g) ∈ c.register) : source = source' := by
  have heq := List.inj_on_of_nodup_map h hp hq rfl
  exact (Prod.mk.inj heq).1

/-- **Who is parting from a gate when it is inspected**, or else who relies on it: if the gate has
other handles than those of the register and of the caller who inspects it, one of them is
theirs. -/
theorem Sound.exists_relies_of_shared (hs : c.Sound) (h : (c.register.map (·.2)).Nodup)
    (hinspects : (c.place t).inspects? = some (source, g))
    (hshared : ¬ (c.gate? source = some g ∧ c.handles g = 2)) (hcrossed : c.isCrossed g = false) :
    ∃ u, u ≠ t ∧ (c.place u).view.relies = some (source, g) := by
  have hview := Place.view_of_inspects? hinspects
  have hlisted : c.gate? source = some g := hs.listed t source g (by rw [hview])
  have hholds : t ∈ c.holders g := mem_holders.mpr (by rw [hview])
  have hregister : c.register.countP (·.2 == g) = 1 := by
    have hcount : (c.register.map (·.2)).count g = 1 :=
      List.count_eq_one_of_mem h (List.mem_map.mpr ⟨_, mem_of_find?_fst hlisted, rfl⟩)
    rw [← hcount, List.count, List.countP_map]
    rfl
  have hmore : 1 < (c.holders g).card := by
    have hpos : 0 < (c.holders g).card := Finset.card_pos.mpr ⟨t, hholds⟩
    have hcounted := hs.counted g
    have hne : c.handles g ≠ 2 := fun htwo => hshared ⟨hlisted, htwo⟩
    omega
  obtain ⟨u, hu, hut⟩ := Finset.exists_mem_ne hmore t
  have hnotparting : (c.place u).parts? ≠ some g := by
    intro hparts
    exact of_decide_eq_false hcrossed ⟨u, hparts⟩
  obtain ⟨source', hrelies⟩ := Place.exists_relies_of_handle (mem_holders.mp hu) hnotparting
  have hsame : source = source' :=
    eq_of_once h (mem_of_find?_fst hlisted) (mem_of_find?_fst (hs.listed u source' g hrelies))
  exact ⟨u, hut, hsame ▸ hrelies⟩

/-- Nobody is parting from a gate that only the register and one caller have handles of. -/
theorem Sound.isCrossed_eq_false (hs : c.Sound)
    (hinspects : (c.place t).inspects? = some (source, g)) (htwo : c.handles g = 2) :
    c.isCrossed g = false := by
  refine decide_eq_false fun ⟨u, hu⟩ => ?_
  have hview := Place.view_of_inspects? hinspects
  have htu : t ≠ u := by
    rintro rfl
    exact nomatch (Place.inspects?_of_parts? hu).symm.trans hinspects
  have hthree := hs.three_le_handles (hs.listed t source g (by rw [hview])) htu (by rw [hview])
    (Place.handle_of_parts? hu)
  omega

/-- **What the register and the last inspections have to do with each other.** -/
structure Filed (seen : List Inspection) (c : Crowd n) : Prop where
  /-- No gate is listed twice. -/
  once : (c.register.map (·.2)).Nodup
  /-- Somebody relies on a gate that is listed, or the last inspection of it was crossed. -/
  needed : ∀ source g, (source, g) ∈ c.register →
    (∃ t, (c.place t).view.relies = some (source, g)) ∨ last? seen g = some ⟨source, g, true⟩
  /-- A gate of which the last inspection was crossed is still listed. -/
  left : ∀ source g, last? seen g = some ⟨source, g, true⟩ → (source, g) ∈ c.register
  /-- The last inspection of a gate that is about to be removed was not crossed. -/
  clear : ∀ t source g, (c.place t).view.removes = some g → last? seen g ≠ some ⟨source, g, true⟩
  /-- Nobody has crashed. -/
  calm : ∀ t, (c.place t).crashed = false

namespace Filed

/-- At first nothing is listed and nothing was inspected. -/
theorem initial (n : Nat) (s : State) : Filed [] ({ state := s } : Crowd n) where
  once := List.nodup_nil
  needed _ _ h := nomatch h
  left _ _ h := nomatch h
  clear _ _ _ h := nomatch h
  calm _ := rfl

/-- **Whoever inspects nothing** may put up a gate that it relies on, and remove one that it is
about to remove. -/
theorem uninspected (hf : Filed seen c) (hplace : ∀ u, u ≠ t → c'.place u = c.place u)
    (honce : (c'.register.map (·.2)).Nodup)
    (hnew : ∀ p ∈ c'.register, (c'.place t).view.relies = some p ∨
      p ∈ c.register ∧ (c.place t).view.relies ≠ some p)
    (hold : ∀ p ∈ c.register, p ∈ c'.register ∨ (c.place t).view.removes = some p.2)
    (hremoves : (c'.place t).view.removes = none) (hcalm : (c'.place t).crashed = false) :
    Filed seen c' where
  once := honce
  needed source g hp := by
    rcases hnew _ hp with ht | ⟨hbefore, ht⟩
    · exact Or.inl ⟨t, ht⟩
    · rcases hf.needed source g hbefore with ⟨u, hu⟩ | hl
      · have hut : u ≠ t := by
          rintro rfl
          exact ht hu
        exact Or.inl ⟨u, by rw [hplace u hut, hu]⟩
      · exact Or.inr hl
  left source g hl := by
    rcases hold _ (hf.left source g hl) with hstays | hgoes
    · exact hstays
    · exact absurd hl (hf.clear t source g hgoes)
  clear u source g hu := by
    by_cases hut : u = t
    · subst hut
      exact nomatch hremoves.symm.trans hu
    · rw [hplace u hut] at hu
      exact hf.clear u source g hu
  calm u := by
    by_cases hut : u = t
    · rw [hut, hcalm]
    · rw [hplace u hut, hf.calm u]

/-- **Whoever inspects a gate** leaves it in the register for the time being.  Either somebody still
relies on it or the inspection was crossed, and who is about to remove it knows that it was not. -/
theorem inspected (hf : Filed seen c) (hs : c.Sound)
    (hinspects : (c.place t).inspects? = some (source, g))
    (hplace : ∀ u, u ≠ t → c'.place u = c.place u) (hregister : c'.register = c.register)
    (hneeded : (∃ u, (c'.place u).view.relies = some (source, g)) ∨ c.isCrossed g = true)
    (hremoves : ∀ g', (c'.place t).view.removes = some g' → g' = g ∧ c.isCrossed g = false)
    (hcalm : (c'.place t).crashed = false) :
    Filed (seen ++ [⟨source, g, c.isCrossed g⟩]) c' := by
  have hview := Place.view_of_inspects? hinspects
  have hlisted : (source, g) ∈ c.register :=
    mem_of_find?_fst (hs.listed t source g (by rw [hview]))
  have hself : last? (seen ++ [⟨source, g, c.isCrossed g⟩]) g = some ⟨source, g, c.isCrossed g⟩ :=
    last?_concat_self seen ⟨source, g, c.isCrossed g⟩
  refine ⟨hregister ▸ hf.once, fun source' g' hp => ?_, fun source' g' hl => ?_,
    fun u source' g' hu => ?_, fun u => ?_⟩
  · rw [hregister] at hp
    by_cases hg : g' = g
    · subst hg
      rw [eq_of_once hf.once hp hlisted, hself]
      rcases hneeded with hu | hcrossed
      · exact Or.inl hu
      · exact Or.inr (by rw [hcrossed])
    · rw [last?_concat_of_ne _ hg]
      rcases hf.needed source' g' hp with ⟨u, hu⟩ | hl
      · have hut : u ≠ t := by
          rintro rfl
          rw [hview] at hu
          exact hg (Prod.mk.inj (Option.some.inj hu)).2.symm
        exact Or.inl ⟨u, by rw [hplace u hut, hu]⟩
      · exact Or.inr hl
  · rw [hregister]
    by_cases hg : g' = g
    · subst hg
      rw [hself] at hl
      obtain ⟨rfl, -, -⟩ := Inspection.mk.inj (Option.some.inj hl)
      exact hlisted
    · rw [last?_concat_of_ne _ hg] at hl
      exact hf.left source' g' hl
  · by_cases hut : u = t
    · obtain ⟨rfl, hcrossed⟩ := hremoves g' (hut ▸ hu)
      rw [hself, hcrossed]
      exact nofun
    · -- whoever is about to remove a gate uses the register, and so does who inspects one
      rw [hplace u hut] at hu
      obtain ⟨w, r, hremoving⟩ := removing_of_removes hu
      have hregistrar : c.registrar = some t := hs.registrar t (by rw [hview])
      exact absurd (hs.eq_of_registers hregistrar (by rw [hremoving]; rfl)) hut
  · by_cases hut : u = t
    · rw [hut, hcalm]
    · rw [hplace u hut, hf.calm u]

/-- **A step keeps it.** -/
theorem step (hf : Filed seen c) (hs : c.Sound) (h : c.step out t = some c')
    (hcalm : (c'.place t).crashed = false) :
    Filed (seen ++ (c.inspection? (.go t)).toList) c' := by
  have hstep := stepping_of_step h
  have hplace (u : Fin n) (hu : u ≠ t) : c'.place u = c.place u := place_step_of_ne h hu
  cases hstep.filing rfl (hf.calm t) with
  | kept hinspects hregister hremoves hrelies =>
    rw [inspection?_of_eq_none hinspects, List.append_nil]
    refine hf.uninspected hplace (hregister ▸ hf.once) (fun p hp => ?_) (fun p hp => ?_) hremoves
      hcalm
    · by_cases ht : (c.place t).view.relies = some p
      · exact Or.inl (hrelies p ht)
      · exact Or.inr ⟨hregister ▸ hp, ht⟩
    · exact Or.inl (hregister ▸ hp)
  | @added source hinspects hregister hremoves hbefore hrelies =>
    rw [inspection?_of_eq_none hinspects, List.append_nil]
    refine hf.uninspected hplace ?_ (fun p hp => ?_) (fun p hp => ?_) hremoves hcalm
    · rw [hregister, List.map_append, List.nodup_append]
      refine ⟨hf.once, List.nodup_singleton _, fun g hg g' hg' => ?_⟩
      obtain ⟨q, hq, rfl⟩ := List.mem_map.mp hg
      obtain rfl := List.mem_singleton.mp hg'
      exact Nat.ne_of_lt (hs.known q hq)
    · rw [hregister] at hp
      rcases List.mem_append.mp hp with hold | hnew
      · exact Or.inr ⟨hold, by rw [hbefore]; exact nofun⟩
      · rw [List.mem_singleton.mp hnew]
        exact Or.inl hrelies
    · rw [hregister]
      exact Or.inl (List.mem_append_left _ hp)
  | unshared hinspects hregister htwo hremoves hrelies =>
    rw [inspection?_of_eq_some hinspects]
    refine hf.inspected hs hinspects hplace hregister (Or.inl ⟨t, hrelies⟩) (fun g' hg' => ?_) hcalm
    obtain rfl := Option.some.inj (hremoves.symm.trans hg')
    exact ⟨rfl, hs.isCrossed_eq_false hinspects htwo⟩
  | @shared source g hinspects hregister hshared hremoves =>
    rw [inspection?_of_eq_some hinspects]
    refine hf.inspected hs hinspects hplace hregister ?_
      (fun g' hg' => nomatch hremoves.symm.trans hg') hcalm
    cases hcrossed : c.isCrossed g with
    | true => exact Or.inr rfl
    | false =>
      obtain ⟨u, hut, hu⟩ := hs.exists_relies_of_shared hf.once hinspects hshared hcrossed
      exact Or.inl ⟨u, by rw [hplace u hut, hu]⟩
  | @removed source g hinspects hregister hbefore hrelies hremoves =>
    rw [inspection?_of_eq_none hinspects, List.append_nil]
    obtain ⟨before, rest, hsplit, herased⟩ := register_split (hs.listed t source g hrelies)
    rw [herased] at hregister
    have hperm : c.register.Perm ((source, g) :: (before ++ rest)) := by
      rw [hsplit]
      exact List.perm_middle
    have honce := (hperm.map (·.2)).nodup_iff.mp hf.once
    rw [List.map_cons, List.nodup_cons] at honce
    refine hf.uninspected hplace (hregister ▸ honce.2) (fun p hp => Or.inr ?_) (fun p hp => ?_)
      hremoves hcalm
    · rw [hregister] at hp
      refine ⟨hperm.mem_iff.mpr (List.mem_cons_of_mem _ hp), ?_⟩
      rw [hrelies]
      rintro ⟨⟩
      exact honce.1 (List.mem_map.mpr ⟨_, hp, rfl⟩)
    · rw [hregister]
      rcases List.mem_cons.mp (hperm.mem_iff.mp hp) with rfl | hstays
      · exact Or.inr hbefore
      · exact Or.inl hstays

/-- Whoever sets out has nothing to do with the register. -/
theorem start (hf : Filed seen c) {errand : Errand} (h : c.start out t errand = some c') :
    Filed seen c' := by
  have hplace (u : Fin n) (hu : u ≠ t) : c'.place u = c.place u := place_start_of_ne h hu
  simp only [Crowd.start, Option.ite_none_right_eq_some, Option.some.injEq] at h
  obtain ⟨hfree, rfl⟩ := h
  have hview : (c.place t).view.relies = none := by rw [Place.view_of_isFree hfree]
  have hregister : (c.setOut out t errand).register = c.register := by cases errand <;> rfl
  have hgoes : ((c.setOut out t errand).place t).view.removes = none ∧
      ((c.setOut out t errand).place t).crashed = false := by
    cases errand with
    | refresh source =>
      rw [setOut, doing_place_self]
      exact ⟨rfl, rfl⟩
    | _ =>
      rw [setOut, put_place_self]
      exact ⟨rfl, rfl⟩
  refine hf.uninspected hplace (hregister ▸ hf.once) (fun p hp => Or.inr ⟨hregister ▸ hp, ?_⟩)
    (fun p hp => Or.inl (hregister ▸ hp)) hgoes.1 hgoes.2
  rw [hview]
  rintro ⟨⟩

/-- **A move keeps it.** -/
theorem next (hf : Filed seen c) (hs : c.Sound) (move : Move n)
    (hcalm : ∀ t, ((c.next out move).place t).crashed = false) :
    Filed (seen ++ (c.inspection? move).toList) (c.next out move) := by
  cases move with
  | start t errand =>
    rw [inspection?, Option.toList_none, List.append_nil, Crowd.next]
    cases h : c.start out t errand with
    | none => exact hf
    | some c' => exact hf.start h
  | go t =>
    rw [Crowd.next] at hcalm ⊢
    cases h : c.step out t with
    | none =>
      rw [inspection?_of_eq_none (inspects?_of_step_eq_none h), List.append_nil]
      exact hf
    | some c' =>
      rw [h] at hcalm
      exact hf.step hs h (hcalm t)

/-- **It holds at all times.** -/
theorem after (n : Nat) (s : State) (moves : List (Move n))
    (hcalm : ({ state := s } : Crowd n).isCalm out moves = true) :
    Filed (({ state := s } : Crowd n).inspections out moves)
      (({ state := s } : Crowd n).after out moves) := by
  induction moves using List.reverseRecOn with
  | nil => exact initial n s
  | append_singleton moves move ih =>
    rw [isCalm_concat] at hcalm
    rw [inspections_concat, after_concat]
    exact (ih hcalm.1).next ((sound_initial n s).after out moves) move hcalm.2

/-- **Where nobody relies on a gate**, the gates that are listed are those of which the last
inspection was crossed. -/
theorem mem_register_iff (hf : Filed seen c) (hnobody : ∀ t, (c.place t).view.relies = none) :
    (source, g) ∈ c.register ↔ last? seen g = some ⟨source, g, true⟩ := by
  refine ⟨fun hp => ?_, hf.left source g⟩
  rcases hf.needed source g hp with ⟨t, ht⟩ | hl
  · exact nomatch (hnobody t).symm.trans ht
  · exact hl

end Filed

/-! ## 5. When nobody is under way -/

/-- **A gate is left in the register just if the last inspection of it was crossed.**  Some callers,
of whom nobody has anything to do at first, make any moves, and nobody crashes behind a gate.  When
nobody is under way, a gate is still in the register if and only if somebody was about to part from
it when it was inspected for the last time.  So the register is empty if and only if there is no
such gate. -/
theorem left_in_register_iff_crossed (n : Nat) (s : State) (moves : List (Move n))
    (hcalm : ({ state := s } : Crowd n).isCalm out moves = true)
    (hfree : ∀ t, ((({ state := s } : Crowd n).after out moves).place t).isFree = true) :
    let c₀ : Crowd n := { state := s }
    let c : Crowd n := c₀.after out moves
    let seen : List Inspection := c₀.inspections out moves
    (∀ source g, (source, g) ∈ c.register ↔ last? seen g = some ⟨source, g, true⟩) ∧
      (c.register = [] ↔ ∀ g i, last? seen g = some i → i.crossed = false) := by
  intro c₀ c seen
  have hf : Filed seen c := .after n s moves hcalm
  have hleft (source : KeySource) (g : Gate) :
      (source, g) ∈ c.register ↔ last? seen g = some ⟨source, g, true⟩ :=
    hf.mem_register_iff fun t => by rw [Place.view_of_isFree (hfree t)]
  refine ⟨hleft, fun hempty g i hl => ?_, fun hclear => ?_⟩
  · have hnot : (i.source, g) ∉ c.register := hempty ▸ List.not_mem_nil
    obtain rfl := gate_of_last? hl
    cases hcrossed : i.crossed with
    | false => rfl
    | true => exact absurd ((hleft _ _).mpr (by rw [hl, ← hcrossed])) hnot
  · refine List.eq_nil_iff_forall_not_mem.mpr fun (source, g) hp => ?_
    exact nomatch hclear g _ ((hleft source g).mp hp)

/-- Two callers get keys at once, and each of them inspects the gate before the other one has parted
from it: it is left behind.  One of them refreshes the keys later, and removes it. -/
theorem left_in_register_iff_crossed_refresh :
    let source : KeySource := ⟨⟨"https", some ⟨"", none, some (.domain "my.auth.com"), none⟩,
      .segments ["token_keys"], none, none⟩, none⟩
    let out : Surroundings := ⟨fun n => Duration.ofSeconds n, 0,
      fun _ _ => .body (Text.Utf8.bytes "\x7b\x22keys\x22:[]\x7d")⟩
    let goes (t : Fin 2) (k : Nat) : List (Move 2) := List.replicate k (.go t)
    let moves : List (Move 2) := .start 0 (.get source) :: .start 1 (.get source) ::
      (goes 0 5 ++ goes 1 5 ++ goes 0 9 ++ goes 1 4 ++ goes 0 2 ++ goes 1 2 ++ goes 0 1 ++ goes 1 1)
    let c : Crowd 2 := ({ state := {} } : Crowd 2).after out moves
    let c' : Crowd 2 :=
      ({ state := {} } : Crowd 2).after out (moves ++ .start 0 (.refresh source) :: goes 0 18)
    (source, 0) ∈ c.register ∧ (source, 0) ∉ c'.register := by
  intro source out goes moves c c'
  have left (moves : List (Move 2))
      (hcalm : ({ state := {} } : Crowd 2).isCalm out moves = true)
      (hfree : ∀ t, ((({ state := {} } : Crowd 2).after out moves).place t).isFree = true) :
      (source, 0) ∈ (({ state := {} } : Crowd 2).after out moves).register ↔
        last? (({ state := {} } : Crowd 2).inspections out moves) 0 = some ⟨source, 0, true⟩ :=
    (left_in_register_iff_crossed 2 {} moves hcalm hfree).1 source 0
  refine ⟨(left _ ?_ ?_).mpr ?_, fun h => absurd ((left _ ?_ ?_).mp h) ?_⟩
  all_goals decide +kernel

/-- **A gate can be left behind although nobody is under way**, and nothing has crashed. -/
theorem register_not_empty_at_rest :
    let source : KeySource := ⟨⟨"https", some ⟨"", none, some (.domain "my.auth.com"), none⟩,
      .segments ["token_keys"], none, none⟩, none⟩
    let out : Surroundings := ⟨fun n => Duration.ofSeconds n, 0,
      fun _ _ => .body (Text.Utf8.bytes "\x7b\x22keys\x22:[]\x7d")⟩
    let goes (t : Fin 2) (k : Nat) : List (Move 2) := List.replicate k (.go t)
    let moves : List (Move 2) := .start 0 (.get source) :: .start 1 (.get source) ::
      (goes 0 5 ++ goes 1 5 ++ goes 0 9 ++ goes 1 4 ++ goes 0 2 ++ goes 1 2 ++ goes 0 1 ++ goes 1 1)
    let c₀ : Crowd 2 := { state := {} }
    let c : Crowd 2 := c₀.after out moves
    (∀ k s, out.answer k s ≠ .crash) ∧ c₀.isCalm out moves = true ∧
      (∀ t, (c.place t).isFree = true) ∧ c.register = [(source, 0)] := by
  intro source out goes moves c₀ c
  refine ⟨fun _ _ => nofun, ?_, ?_, ?_⟩
  all_goals decide +kernel

end Crowd
end Retrieval
end TokenTrust

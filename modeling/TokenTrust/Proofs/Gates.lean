/-
# Gates

What keeps callers apart who want the keys of the same source.  A gate is only of use if they all
queue at the same one, and it may be removed from the register while they do: everything depends on
nobody removing a gate that somebody else still needs.

`Crowd.Sound` is the invariant of that.  It relates the register and the numbers of handles to where
the callers are.  What is crucial is `listed`: whoever relies on a gate finds it in the register,
under the source that it is for.  It is kept because the handles are counted correctly (`counted`),
so that a gate with two handles is one that only the register and a single caller know, and because
the register is used by one caller at a time (`registrar`), so that this does not change before the
gate is removed (`unshared`).

Each thing that a step does with the register, with a gate or with a place keeps the invariant, and
a step is put together from such things (`Sound.step`).
-/
import Mathlib.Algebra.BigOperators.Group.Finset.Basic
import Mathlib.Data.Fintype.BigOperators
import Mathlib.Data.List.Induction
import TokenTrust.Proofs.Cache
import TokenTrust.Proofs.Callers

namespace TokenTrust
namespace Retrieval

open TokenTrust.Action

/-! ## 1. What a place says about gates -/

/-- What the place of a caller says about the gates. -/
structure View where
  /-- The gate of which the caller has a handle. -/
  handle : Option Gate := none
  /-- The gate that the caller takes for the one of a source. -/
  relies : Option (KeySource × Gate) := none
  /-- The gate that is closed behind the caller. -/
  keeps : Option Gate := none
  /-- Whether the caller uses the register. -/
  registers : Bool := false
  /-- The gate that the caller is about to remove. -/
  removes : Option Gate := none
  deriving DecidableEq

/-- What is said by a place behind a gate. -/
def View.through (source : KeySource) (g : Gate) : View :=
  { handle := some g, relies := some (source, g), keeps := some g }

/-- What a phase says about the gate that it is at. -/
def Phase.view (source : KeySource) (g : Gate) : Phase → View
  | .queued | .leaving _ => { handle := some g, relies := some (source, g) }
  | .inspecting _ => { handle := some g, relies := some (source, g), registers := true }
  | .removing _ =>
    { handle := some g, relies := some (source, g), registers := true, removes := some g }
  | .parting _ => { handle := some g }
  | _ => .through source g

def Place.view : Place → View
  | .registering _ => { registers := true }
  | .enrolling w g => { relies := some (w.source, g), registers := true }
  | .inside w g phase => phase.view w.source g
  | _ => {}

namespace Place

theorem view_of_isFree {p : Place} (h : p.isFree = true) : p.view = {} := by
  cases p with
  | idle => rfl
  | returned o => rfl
  | _ => exact nomatch h

theorem view_ofRequested (source : KeySource) (r : Except Failure Instant) :
    (ofRequested source r).view = {} := by
  cases r with
  | error f => rfl
  | ok m => rfl

theorem view_ofLook (w : Wanted) (r : Except Failure (Option HeldKeys)) :
    (ofLook w r).view = {} := by
  cases r with
  | error f => rfl
  | ok found => cases found <;> rfl

end Place

namespace Phase

variable {source : KeySource} {g : Gate}

theorem view_ofLook (r : Except Failure (Option HeldKeys)) :
    (ofLook r).view source g = .through source g := by
  cases r with
  | error f => rfl
  | ok found => cases found <;> rfl

theorem view_ofAsked (r : Except Failure Nat) :
    (ofAsked r).view source g = .through source g := by
  cases r <;> rfl

theorem view_ofRead (k : Nat) (r : Except Failure KeySet) :
    (ofRead k r).view source g = .through source g := by
  cases r <;> rfl

theorem view_ofMoment (k : Nat) (keys : KeySet) (r : Except Failure Instant) :
    (ofMoment k keys r).view source g = .through source g := by
  cases r <;> rfl

theorem view_ofStored (r : Except Failure HeldKeys) :
    (ofStored r).view source g = .through source g := by
  cases r <;> rfl

/-- After a crash the gate does not matter any more. -/
theorem view_ofDone (r : Gotten) :
    (ofDone r).view source g = { handle := some g } ∨
      (ofDone r).view source g = { handle := some g, relies := some (source, g) } := by
  cases r with
  | ok got => exact Or.inr rfl
  | error f =>
    cases f with
    | error e => exact Or.inr rfl
    | crash => exact Or.inl rfl

end Phase

/-! ## 2. The invariant -/

namespace Crowd

variable {n : Nat} {c c' : Crowd n} {t u : Fin n} {p : Place} {g : Gate} {source : KeySource}

/-- The callers who have a handle of a gate. -/
def holders (c : Crowd n) (g : Gate) : Finset (Fin n) :=
  Finset.univ.filter fun t => (c.place t).view.handle = some g

theorem mem_holders : t ∈ c.holders g ↔ (c.place t).view.handle = some g := by
  simp [holders]

/-- What is known to hold of callers, the register, and the gates at all times. -/
structure Sound (c : Crowd n) : Prop where
  /-- Whoever relies on a gate finds it in the register. -/
  listed : ∀ t source g, (c.place t).view.relies = some (source, g) → c.gate? source = some g
  /-- The handles are those that the register and the callers have. -/
  counted : ∀ g, c.handles g = c.register.countP (·.2 == g) + (c.holders g).card
  /-- A gate is closed behind one caller only. -/
  kept : ∀ t g, (c.place t).view.keeps = some g → c.keeper g = some t
  /-- One caller only uses the register. -/
  registrar : ∀ t, (c.place t).view.registers = true → c.registrar = some t
  /-- Nobody else has a handle of a gate that is about to be removed. -/
  unshared : ∀ t g, (c.place t).view.removes = some g → c.handles g = 2
  /-- No gate is in use that has not been put up yet. -/
  known : ∀ p ∈ c.register, p.2 < c.nextGate
  held : ∀ t g, (c.place t).view.handle = some g → g < c.nextGate

/-- **Nobody else is behind the gate of a source** while a caller is. -/
theorem Sound.eq_of_through (hs : c.Sound) {g' : Gate}
    (ht : (c.place t).view = .through source g) (hu : (c.place u).view = .through source g') :
    t = u := by
  have hlisted : c.gate? source = some g := hs.listed t source g (by rw [ht]; rfl)
  have hlisted' : c.gate? source = some g' := hs.listed u source g' (by rw [hu]; rfl)
  obtain rfl : g = g' := Option.some.inj (hlisted.symm.trans hlisted')
  have hkeeper : c.keeper g = some t := hs.kept t g (by rw [ht]; rfl)
  have hkeeper' : c.keeper g = some u := hs.kept u g (by rw [hu]; rfl)
  exact Option.some.inj (hkeeper.symm.trans hkeeper')

/-- At first nobody is anywhere. -/
theorem sound_initial (n : Nat) (s : State) : ({ state := s } : Crowd n).Sound where
  listed _ _ _ h := nomatch h
  counted g := by simp [holders, Place.view]
  kept _ _ h := nomatch h
  registrar _ h := nomatch h
  unshared _ _ h := nomatch h
  known _ h := nomatch h
  held _ _ h := nomatch h

/-- A caller goes to another place, and the others stay where they are. -/
theorem card_put (c : Crowd n) (t : Fin n) (p : Place) (P : Place → Prop) [DecidablePred P] :
    (Finset.univ.filter fun u => P ((c.put t p).place u)).card + (if P (c.place t) then 1 else 0) =
      (Finset.univ.filter fun u => P (c.place u)).card + (if P p then 1 else 0) := by
  have others : ∑ u ∈ {t}ᶜ, (if P ((c.put t p).place u) then 1 else 0) =
      ∑ u ∈ {t}ᶜ, (if P (c.place u) then 1 else 0) := by
    refine Finset.sum_congr rfl fun u hu => ?_
    rw [put_place_of_ne (by simpa using hu)]
  simp only [Finset.card_filter]
  rw [Fintype.sum_eq_add_sum_compl t, Fintype.sum_eq_add_sum_compl t, others, put_place_self]
  omega

/-- A caller comes to have a handle, or gives it back, and the others keep theirs. -/
theorem card_holders_put (c : Crowd n) (t : Fin n) (p : Place) (g : Gate) :
    ((c.put t p).holders g).card + (if (c.place t).view.handle = some g then 1 else 0) =
      (c.holders g).card + (if p.view.handle = some g then 1 else 0) :=
  card_put c t p fun q => q.view.handle = some g

/-! ## 3. What keeps it -/

/-- What holds of a caller at its new place, and of the others where they are, holds of all. -/
theorem forall_put {P : Fin n → Place → Prop} (ht : P t p)
    (hothers : ∀ u, u ≠ t → P u (c.place u)) (u : Fin n) : P u ((c.put t p).place u) := by
  by_cases hut : u = t
  · rw [hut, put_place_self]
    exact ht
  · rw [put_place_of_ne hut]
    exact hothers u hut

/-- Only a caller at one place is about to remove a gate. -/
theorem removing_of_removes (h : p.view.removes = some g) :
    ∃ w r, p = .inside w g (.removing r) := by
  cases p with
  | inside w g' phase =>
    cases phase with
    | removing r =>
      obtain rfl : g' = g := Option.some.inj h
      exact ⟨w, r, rfl⟩
    | _ => exact nomatch h
  | _ => exact nomatch h

/-- Whoever relies on a gate has a handle of it or uses the register. -/
theorem handle_or_registers_of_relies (h : p.view.relies = some (source, g)) :
    p.view.handle = some g ∨ p.view.registers = true := by
  cases p with
  | enrolling w g' => exact Or.inr rfl
  | inside w g' phase =>
    cases phase with
    | parting r => exact nomatch h
    | _ =>
      obtain ⟨-, rfl⟩ := Prod.mk.inj (Option.some.inj h)
      exact Or.inl rfl
  | _ => exact nomatch h

/-- Where the gate of a source stands in the register. -/
theorem register_split (h : c.gate? source = some g) :
    ∃ before rest, c.register = before ++ (source, g) :: rest ∧
      c.register.eraseP (·.1 == source) = before ++ rest := by
  obtain ⟨p, hp, rfl⟩ := Option.map_eq_some_iff.mp h
  obtain ⟨hsource, before, rest, hregister, hbefore⟩ := List.find?_eq_some_iff_append.mp hp
  obtain rfl : p.1 = source := by simpa using hsource
  refine ⟨before, rest, hregister, ?_⟩
  rw [hregister, List.eraseP_append_right _ (by simpa using hbefore), List.eraseP_cons_of_pos]
  simp

namespace Sound

/-- The clock, the caches and the lock of the entries have nothing to do with gates. -/
theorem congr (hs : c.Sound) (state : State) (readers : Nat) (writing : Bool) :
    ({ c with state, readers, writing } : Crowd n).Sound :=
  ⟨hs.listed, hs.counted, hs.kept, hs.registrar, hs.unshared, hs.known, hs.held⟩

/-- **A caller goes to a place** if what the place says is true, and takes handles with it or gives
them back. -/
theorem goTo (hs : c.Sound) (handles : Gate → Nat)
    (hc : ∀ g, handles g + (if (c.place t).view.handle = some g then 1 else 0) =
      c.handles g + (if p.view.handle = some g then 1 else 0))
    (hh : ∀ g, p.view.handle = some g → g < c.nextGate)
    (hl : ∀ source g, p.view.relies = some (source, g) → c.gate? source = some g)
    (hk : ∀ g, p.view.keeps = some g → c.keeper g = some t)
    (hr : p.view.registers = true → c.registrar = some t)
    (hu : ∀ u g, ((c.put t p).place u).view.removes = some g → handles g = 2) :
    ({ c with handles }.put t p : Crowd n).Sound where
  listed := forall_put
    (P := fun _ q => ∀ source g, q.view.relies = some (source, g) → c.gate? source = some g)
    hl fun u _ => hs.listed u
  counted g := by
    have hcallers := card_holders_put c t p g
    have hhandles := hc g
    have hbefore := hs.counted g
    change handles g = c.register.countP (·.2 == g) + ((c.put t p).holders g).card
    omega
  kept := forall_put (P := fun u q => ∀ g, q.view.keeps = some g → c.keeper g = some u)
    hk fun u _ => hs.kept u
  registrar := forall_put (P := fun u q => q.view.registers = true → c.registrar = some u)
    hr fun u _ => hs.registrar u
  unshared := hu
  known := hs.known
  held := forall_put (P := fun _ q => ∀ g, q.view.handle = some g → g < c.nextGate)
    hh fun u _ => hs.held u

/-- A caller goes to a place with the handle that it has. -/
theorem put (hs : c.Sound) (hh : p.view.handle = (c.place t).view.handle)
    (hl : ∀ source g, p.view.relies = some (source, g) → c.gate? source = some g)
    (hk : ∀ g, p.view.keeps = some g → c.keeper g = some t)
    (hr : p.view.registers = true → c.registrar = some t)
    (hu : ∀ g, p.view.removes = some g → c.handles g = 2) : (c.put t p).Sound := by
  refine hs.goTo c.handles (fun g => by rw [hh]) (fun g hg => hs.held t g (hh ▸ hg)) hl hk hr ?_
  exact forall_put (P := fun _ q => ∀ g, q.view.removes = some g → c.handles g = 2)
    hu fun u _ => hs.unshared u

/-- A caller may go to a place that says the same as the one where it is. -/
theorem put_of_view_eq (hs : c.Sound) (h : p.view = (c.place t).view) : (c.put t p).Sound :=
  hs.put (by rw [h]) (fun source g hg => hs.listed t source g (h ▸ hg))
    (fun g hg => hs.kept t g (h ▸ hg)) (fun hr => hs.registrar t (h ▸ hr))
    (fun g hg => hs.unshared t g (h ▸ hg))

theorem doing {α : Type} (hs : c.Sound) (out : Surroundings) (x : Action α)
    {goOn : Except Failure α → Place} (h : ∀ r, (goOn r).view = (c.place t).view) :
    (c.doing out t x goOn).Sound := by
  rw [Crowd.doing]
  exact (hs.congr _ c.readers c.writing).put_of_view_eq (h _)

/-! ### The register -/

/-- Nobody uses the register when it is taken. -/
theorem takeRegister (hs : c.Sound) (h : c.takeRegister t = some c') :
    c'.Sound ∧ c'.registrar = some t ∧ c'.place = c.place ∧ c'.register = c.register := by
  obtain ⟨hfree, rfl⟩ := takeRegister_eq_some_iff.mp h
  refine ⟨⟨hs.listed, hs.counted, hs.kept, fun u hu => ?_, hs.unshared, hs.known, hs.held⟩, rfl,
    rfl, rfl⟩
  rw [hs.registrar u hu] at hfree
  exact nomatch hfree

/-- Whoever uses the register is the one who may. -/
theorem eq_of_registers (hs : c.Sound) (ht : c.registrar = some t)
    (hu : (c.place u).view.registers = true) : u = t := by
  have huser := hs.registrar u hu
  rw [ht] at huser
  exact (Option.some.inj huser).symm

/-- The register is given back by the one who used it. -/
theorem freeRegister (hs : c.Sound) (ht : c.registrar = some t)
    (h : (c.place t).view.registers = false) : c.freeRegister.Sound := by
  refine ⟨hs.listed, hs.counted, hs.kept, fun u hu => ?_, hs.unshared, hs.known, hs.held⟩
  have hut : u = t := hs.eq_of_registers ht hu
  subst hut
  exact absurd (hu.symm.trans h) (by simp)

theorem holders_nextGate (hs : c.Sound) : c.holders c.nextGate = ∅ := by
  refine Finset.eq_empty_of_forall_notMem fun u hu => ?_
  exact Nat.lt_irrefl _ (hs.held u _ (mem_holders.mp hu))

theorem countP_nextGate (hs : c.Sound) : c.register.countP (·.2 == c.nextGate) = 0 :=
  List.countP_eq_zero.mpr fun p hp => by simpa using Nat.ne_of_lt (hs.known p hp)

/-- **A gate is put up** for a source that has none. -/
theorem putUp (hs : c.Sound) (source : KeySource) : (c.putUp source).Sound := by
  have unused : c.handles c.nextGate = 0 := by
    rw [hs.counted, hs.countP_nextGate, hs.holders_nextGate]
    rfl
  have found {source' : KeySource} {g : Gate} (hg : c.gate? source' = some g) :
      (c.putUp source).gate? source' = some g := by
    rw [gate?, Option.map_eq_some_iff] at hg ⊢
    obtain ⟨p, hp, rfl⟩ := hg
    exact ⟨p, by rw [Crowd.putUp, setHandles, List.find?_append, hp]; rfl, rfl⟩
  refine ⟨fun u source' g hu => found (hs.listed u source' g hu), fun g => ?_, hs.kept,
    hs.registrar, fun u g hu => ?_, fun p hp => ?_, fun u g hu => ?_⟩
  · change (if g = c.nextGate then 1 else c.handles g) =
      (c.register ++ [(source, c.nextGate)]).countP _ + (c.holders g).card
    rw [List.countP_append]
    by_cases hg : g = c.nextGate
    · subst hg
      rw [hs.countP_nextGate, hs.holders_nextGate]
      simp
    · rw [if_neg hg, hs.counted g]
      simp [Ne.symm hg]
  · have htwo := hs.unshared u g hu
    have hg : g ≠ c.nextGate := by
      rintro rfl
      omega
    exact (if_neg hg).trans htwo
  · rcases List.mem_append.mp hp with hold | hnew
    · exact Nat.lt_succ_of_lt (hs.known p hold)
    · rw [List.mem_singleton.mp hnew]
      exact Nat.lt_succ_self _
  · exact Nat.lt_succ_of_lt (hs.held u g hu)

/-! ### Handles -/

/-- Two callers and the register are three. -/
theorem three_le_handles (hs : c.Sound) (hg : c.gate? source = some g) (htu : t ≠ u)
    (ht : (c.place t).view.handle = some g) (hu : (c.place u).view.handle = some g) :
    3 ≤ c.handles g := by
  have hregister : 0 < c.register.countP (·.2 == g) :=
    List.countP_pos_iff.mpr ⟨(source, g), mem_of_find?_fst hg, by simp⟩
  have hcallers : 1 < (c.holders g).card :=
    Finset.one_lt_card.mpr ⟨t, mem_holders.mpr ht, u, mem_holders.mpr hu, htu⟩
  rw [hs.counted g]
  omega

/-- **A caller gets a handle** of a gate that it has found, while it uses the register. -/
theorem takeHandle (hs : c.Sound) {w : Wanted} (ht : c.place t = .enrolling w g) :
    ((c.setHandles g (c.handles g + 1)).put t (.inside w g .queued)).Sound := by
  have hregistrar : c.registrar = some t := hs.registrar t (by rw [ht]; rfl)
  have hlisted : c.gate? w.source = some g := hs.listed t w.source g (by rw [ht]; rfl)
  refine hs.goTo _ (fun g' => ?_) (fun g' hg => ?_) (fun source g' hg => ?_) nofun nofun
    fun u g' hu => ?_
  · by_cases hg : g' = g
    · subst hg
      simp [ht, Place.view, Phase.view]
    · simp [ht, Place.view, Phase.view, hg, Ne.symm hg]
  · obtain rfl : g = g' := Option.some.inj hg
    exact hs.known _ (mem_of_find?_fst hlisted)
  · obtain ⟨rfl, rfl⟩ : w.source = source ∧ g = g' := by simpa [Place.view, Phase.view] using hg
    exact hlisted
  · -- whoever removes a gate uses the register, which this caller does
    by_cases hut : u = t
    · subst hut
      rw [put_place_self] at hu
      exact nomatch hu
    · rw [put_place_of_ne hut] at hu
      obtain ⟨w', r, hplace⟩ := removing_of_removes hu
      exact absurd (hs.eq_of_registers hregistrar (by rw [hplace]; rfl)) hut

/-- **A caller gives its handle back.** -/
theorem dropHandle (hs : c.Sound) {w : Wanted} {r : Gotten}
    (ht : c.place t = .inside w g (.parting r)) :
    ((c.setHandles g (c.handles g - 1)).put t (.returned (.keys r))).Sound := by
  have hholds : (c.place t).view.handle = some g := by rw [ht]; rfl
  have hnone : (Place.returned (.keys r)).view.handle = none := rfl
  have hpos : 0 < c.handles g := by
    have hcallers : 0 < (c.holders g).card := Finset.card_pos.mpr ⟨t, mem_holders.mpr hholds⟩
    rw [hs.counted g]
    omega
  refine hs.goTo _ (fun g' => ?_) nofun (fun _ _ h => nomatch h) nofun nofun fun u g' hu => ?_
  · rw [hholds, hnone]
    by_cases hg : g' = g
    · subst hg
      simp only [if_true, reduceCtorEq, if_false]
      omega
    · simp [hg, Ne.symm hg]
  · by_cases hut : u = t
    · subst hut
      rw [put_place_self] at hu
      exact nomatch hu
    · rw [put_place_of_ne hut] at hu
      have htwo := hs.unshared u g' hu
      have hg : g' ≠ g := by
        rintro rfl
        obtain ⟨w', r', hplace⟩ := removing_of_removes hu
        have hlisted : c.gate? w'.source = some g' := hs.listed u _ _ (by rw [hplace]; rfl)
        have hthree := hs.three_le_handles hlisted hut (by rw [hplace]; rfl) hholds
        omega
      exact (if_neg hg).trans htwo

/-! ### Removing a gate -/

/-- **A gate is removed** that only the register and one caller have handles of, while this caller
uses the register and relies on the gate no more. -/
theorem remove (hs : c.Sound) (hregistrar : c.registrar = some t) (hg : c.gate? source = some g)
    (htwo : c.handles g = 2) (ht : (c.place t).view = { handle := some g }) :
    (c.remove source g).Sound := by
  obtain ⟨before, rest, hregister, herased⟩ := register_split hg
  have elsewhere {u : Fin n} {source' : KeySource} {g' : Gate}
      (hu : (c.place u).view.relies = some (source', g')) : u ≠ t ∧ source' ≠ source := by
    have hut : u ≠ t := by
      rintro rfl
      rw [ht] at hu
      exact nomatch hu
    refine ⟨hut, ?_⟩
    rintro rfl
    have hlisted := hs.listed u source' g' hu
    obtain rfl : g = g' := Option.some.inj (hg.symm.trans hlisted)
    rcases handle_or_registers_of_relies hu with hhandle | hregisters
    · have hthree := hs.three_le_handles hg hut hhandle (by rw [ht])
      omega
    · exact hut (hs.eq_of_registers hregistrar hregisters)
  refine ⟨fun u source' g' hu => ?_, fun g' => ?_, hs.kept, hs.registrar, fun u g' hu => ?_,
    fun p hp => hs.known p (List.mem_of_mem_eraseP hp), hs.held⟩
  · obtain ⟨-, hne⟩ := elsewhere hu
    have hlisted := hs.listed u source' g' hu
    rw [gate?, hregister, List.find?_append, List.find?_cons_of_neg (by simpa using hne.symm)]
      at hlisted
    rw [gate?, Crowd.remove, setHandles, herased, List.find?_append]
    exact hlisted
  · have hcounted := hs.counted g'
    change (if g' = g then c.handles g - 1 else c.handles g') =
      (c.register.eraseP (·.1 == source)).countP (·.2 == g') + (c.holders g').card
    rw [hregister, List.countP_append, List.countP_cons] at hcounted
    rw [herased, List.countP_append]
    by_cases hgg : g' = g
    · subst hgg
      simp only [beq_self_eq_true, if_true] at hcounted ⊢
      omega
    · simp only [beq_iff_eq, Ne.symm hgg, if_false] at hcounted ⊢
      rw [if_neg hgg]
      omega
  · obtain ⟨w, r, hplace⟩ := removing_of_removes hu
    have hregisters : (c.place u).view.registers = true := by
      rw [show c.place u = .inside w g' (.removing r) from hplace]
      rfl
    obtain rfl : u = t := hs.eq_of_registers hregistrar hregisters
    exact nomatch hu.symm.trans (congrArg View.removes ht)

/-! ### Gates -/

/-- A gate is open when it is taken. -/
theorem takeGate (hs : c.Sound) (h : c.takeGate t g = some c') :
    c'.Sound ∧ c'.keeper g = some t ∧ c'.place = c.place ∧ c'.register = c.register := by
  obtain ⟨hopen, rfl⟩ := takeGate_eq_some_iff.mp h
  refine ⟨⟨hs.listed, hs.counted, fun u g' hu => ?_, hs.registrar, hs.unshared, hs.known,
    hs.held⟩, by simp [setKeeper], rfl, rfl⟩
  have hkept := hs.kept u g' hu
  have hg : g' ≠ g := by
    rintro rfl
    rw [hkept] at hopen
    cases hopen
  simpa [setKeeper, hg] using hkept

/-- A gate is opened by the one behind whom it was closed. -/
theorem openGate (hs : c.Sound) (hk : c.keeper g = some t)
    (ht : (c.place t).view.keeps = none) : (c.setKeeper g none).Sound := by
  refine ⟨hs.listed, hs.counted, fun u g' hu => ?_, hs.registrar, hs.unshared, hs.known, hs.held⟩
  have hkept := hs.kept u g' hu
  have hg : g' ≠ g := by
    rintro rfl
    rw [hk] at hkept
    obtain rfl : t = u := Option.some.inj hkept
    exact absurd (hu.symm.trans ht) (by simp)
  simpa [setKeeper, hg] using hkept

/-! ## 4. Steps -/

/-- A caller finds the gate of its source, or puts one up. -/
theorem enroll (hs : c.Sound) {w : Wanted} (ht : c.place t = .registering w) :
    (c.enroll t w).Sound := by
  have hregistrar : c.registrar = some t := hs.registrar t (by rw [ht]; rfl)
  have going {c' : Crowd n} (hs' : c'.Sound) (ht' : c'.place t = c.place t)
      (hr' : c'.registrar = some t) {g : Gate} (hg : c'.gate? w.source = some g) :
      (c'.put t (.enrolling w g)).Sound := by
    refine hs'.put (by rw [ht', ht]; rfl) (fun source g' h => ?_) nofun (fun _ => hr') nofun
    obtain ⟨rfl, rfl⟩ : w.source = source ∧ g = g' := by simpa [Place.view] using h
    exact hg
  rw [Crowd.enroll]
  cases hg : c.gate? w.source with
  | some g => exact going hs rfl hregistrar hg
  | none =>
    refine going (hs.putUp w.source) rfl hregistrar ?_
    have hnone : c.register.find? (·.1 == w.source) = none := by simpa [gate?] using hg
    simp [gate?, Crowd.putUp, setHandles, List.find?_append, hnone]

/-- A caller sees whether it may remove the gate, and gives the register back if it may not. -/
theorem inspect (hs : c.Sound) {w : Wanted} {r : Gotten}
    (ht : c.place t = .inside w g (.inspecting r)) : (c.inspect t w g r).Sound := by
  have hregistrar : c.registrar = some t := hs.registrar t (by rw [ht]; rfl)
  have hlisted : c.gate? w.source = some g := hs.listed t w.source g (by rw [ht]; rfl)
  rw [Crowd.inspect]
  split
  case isTrue h =>
    refine hs.put (by rw [ht]; rfl) (fun source g' hg => ?_) (by rintro _ ⟨⟩) (fun _ => hregistrar)
      fun g' hg => ?_
    · obtain ⟨rfl, rfl⟩ : w.source = source ∧ g = g' := by simpa [Place.view, Phase.view] using hg
      exact hlisted
    · obtain rfl : g = g' := Option.some.inj hg
      exact h.2
  case isFalse =>
    have hparting : (c.put t (.inside w g (.parting r))).Sound :=
      hs.put (by rw [ht]; rfl) (by rintro _ _ ⟨⟩) (by rintro _ ⟨⟩) (by rintro ⟨⟩)
        (by rintro _ ⟨⟩)
    exact hparting.freeRegister hregistrar (by simp [Place.view, Phase.view])

/-- Whoever reads the entries, or waits until it may, says what it said. -/
theorem takeToRead (hs : c.Sound) (hp : p.view = (c.place t).view)
    (h : (c.takeToRead.map (·.put t p)) = some c') : c'.Sound := by
  obtain ⟨c₁, hc₁, rfl⟩ := Option.map_eq_some_iff.mp h
  obtain ⟨-, rfl⟩ := takeToRead_eq_some_iff.mp hc₁
  exact (hs.congr c.state (c.readers + 1) c.writing).put_of_view_eq hp

theorem takeToWrite (hs : c.Sound) (hp : p.view = (c.place t).view)
    (h : (c.takeToWrite.map (·.put t p)) = some c') : c'.Sound := by
  obtain ⟨c₁, hc₁, rfl⟩ := Option.map_eq_some_iff.mp h
  obtain ⟨-, rfl⟩ := takeToWrite_eq_some_iff.mp hc₁
  exact (hs.congr c.state c.readers true).put_of_view_eq hp

/-- **A step of a caller with a handle keeps the invariant.** -/
theorem stepInside (hs : c.Sound) {out : Surroundings} {w : Wanted} {phase : Phase}
    (ht : c.place t = .inside w g phase) (h : c.stepInside out t w g phase = some c') :
    c'.Sound := by
  have hview : (c.place t).view = phase.view w.source g := by rw [ht]; rfl
  have relies {source : KeySource} {g' : Gate} (hl : c.gate? w.source = some g)
      (h : some (w.source, g) = some (source, g')) : c.gate? source = some g' := by
    obtain ⟨rfl, rfl⟩ := Prod.mk.inj (Option.some.inj h)
    exact hl
  cases phase with
  | queued =>
    obtain ⟨c₁, hc₁, rfl⟩ := Option.map_eq_some_iff.mp h
    obtain ⟨hs₁, hkeeper, hplace, hregister⟩ := hs.takeGate hc₁
    have hlisted : c.gate? w.source = some g := hs.listed t w.source g (by rw [hview]; rfl)
    refine hs₁.put (by rw [hplace, hview]; rfl) (fun source g' hg => ?_) (fun g' hg => ?_) nofun
      nofun
    · rw [gate?, hregister]
      exact relies hlisted hg
    · obtain rfl : g = g' := Option.some.inj hg
      exact hkeeper
  | admitted => exact hs.takeToRead (p := .inside w g .checking) hview.symm h
  | checking =>
    cases h
    exact (hs.congr _ _ _).doing out _ fun r => (Phase.view_ofLook r).trans hview.symm
  | bound =>
    cases h
    exact hs.doing out _ fun r => (Phase.view_ofAsked r).trans hview.symm
  | fetching k =>
    cases h
    exact hs.doing out _ fun r => (Phase.view_ofRead k r).trans hview.symm
  | carrying k keys =>
    cases h
    exact hs.doing out _ fun r => (Phase.view_ofMoment k keys r).trans hview.symm
  | dated k keys moment =>
    exact hs.takeToWrite (p := .inside w g (.storing k keys moment)) hview.symm h
  | storing k keys moment =>
    cases h
    exact (hs.congr _ _ _).doing out _ fun r => (Phase.view_ofStored r).trans hview.symm
  | done r =>
    cases h
    have hkeeper : c.keeper g = some t := hs.kept t g (by rw [hview]; rfl)
    have hlisted : c.gate? w.source = some g := hs.listed t w.source g (by rw [hview]; rfl)
    have opened {p : Place} (hs' : (c.put t p).Sound) (hp : p.view.keeps = none) :
        ((c.setKeeper g none).put t p).Sound :=
      hs'.openGate hkeeper (by rw [put_place_self, hp])
    have hsays : (Place.inside w g (.ofDone r)).view = { handle := some g } ∨
        (Place.inside w g (.ofDone r)).view =
          { handle := some g, relies := some (w.source, g) } := Phase.view_ofDone r
    rcases hsays with hv | hv
    · refine opened (hs.put ?_ (fun source g' hg => ?_) ?_ ?_ ?_) (by rw [hv])
      · rw [hv, hview]
        rfl
      · rw [hv] at hg
        exact nomatch hg
      all_goals
        rw [hv]
        nofun
    · refine opened (hs.put ?_ (fun source g' hg => relies hlisted (by rwa [hv] at hg)) ?_ ?_ ?_)
        (by rw [hv])
      · rw [hv, hview]
        rfl
      all_goals
        rw [hv]
        nofun
  | leaving r =>
    obtain ⟨c₁, hc₁, rfl⟩ := Option.map_eq_some_iff.mp h
    obtain ⟨hs₁, hregistrar, hplace, hregister⟩ := hs.takeRegister hc₁
    have hlisted : c.gate? w.source = some g := hs.listed t w.source g (by rw [hview]; rfl)
    refine hs₁.put (by rw [hplace, hview]; rfl) (fun source g' hg => ?_) nofun
      (fun _ => hregistrar) nofun
    rw [gate?, hregister]
    exact relies hlisted hg
  | inspecting r =>
    cases h
    exact hs.inspect ht
  | removing r =>
    cases h
    have hregistrar : c.registrar = some t := hs.registrar t (by rw [hview]; rfl)
    have hlisted : c.gate? w.source = some g := hs.listed t w.source g (by rw [hview]; rfl)
    have htwo : c.handles g = 2 := hs.unshared t g (by rw [hview]; rfl)
    have hparting : (c.put t (.inside w g (.parting r))).Sound :=
      hs.put (by rw [hview]; rfl) (fun _ _ h => nomatch h) nofun nofun nofun
    have hremoved := hparting.remove hregistrar hlisted htwo (by simp [Place.view, Phase.view])
    refine hremoved.freeRegister hregistrar ?_
    simp [Crowd.remove, setHandles, Crowd.put, Place.view, Phase.view]
  | parting r =>
    cases h
    exact hs.dropHandle ht

/-- **A step keeps the invariant.** -/
theorem step (hs : c.Sound) {out : Surroundings} (h : c.step out t = some c') : c'.Sound := by
  rw [Crowd.step] at h
  cases ht : c.place t with
  | idle =>
    rw [ht] at h
    cases h
  | asking w =>
    rw [ht] at h
    exact hs.takeToRead (p := .looking w) (by rw [ht]; rfl) h
  | looking w =>
    rw [ht] at h
    cases h
    exact (hs.congr _ _ _).doing out _ fun r => (Place.view_ofLook w r).trans (by rw [ht]; rfl)
  | unhelped w =>
    rw [ht] at h
    obtain ⟨c₁, hc₁, rfl⟩ := Option.map_eq_some_iff.mp h
    obtain ⟨hs₁, hregistrar, hplace, -⟩ := hs.takeRegister hc₁
    exact hs₁.put (by rw [hplace, ht]; rfl) (by rintro _ _ ⟨⟩) (by rintro _ ⟨⟩)
      (fun _ => hregistrar) (by rintro _ ⟨⟩)
  | registering w =>
    rw [ht] at h
    cases h
    exact hs.enroll ht
  | enrolling w g =>
    rw [ht] at h
    cases h
    have hregistrar : c.registrar = some t := hs.registrar t (by rw [ht]; rfl)
    exact (hs.takeHandle ht).freeRegister hregistrar (by simp [Place.view, Phase.view])
  | inside w g phase =>
    rw [ht] at h
    exact hs.stepInside ht h
  | clearing =>
    rw [ht] at h
    exact hs.takeToWrite (p := .emptying) (by rw [ht]; rfl) h
  | emptying =>
    rw [ht] at h
    cases h
    exact (hs.congr _ _ _).doing out _ fun r => by rw [ht]; rfl
  | measuring =>
    rw [ht] at h
    exact hs.takeToRead (p := .counting) (by rw [ht]; rfl) h
  | counting =>
    rw [ht] at h
    cases h
    exact (hs.congr c.state (c.readers - 1) c.writing).put_of_view_eq (by rw [ht]; rfl)
  | returned o =>
    rw [ht] at h
    cases h

/-- A caller who sets out has nothing to do with a gate. -/
theorem start (hs : c.Sound) {out : Surroundings} {errand : Errand}
    (h : c.start out t errand = some c') : c'.Sound := by
  simp only [Crowd.start, Option.ite_none_right_eq_some, Option.some.injEq] at h
  obtain ⟨hfree, rfl⟩ := h
  have hview : {} = (c.place t).view := (Place.view_of_isFree hfree).symm
  cases errand with
  | get source => exact hs.put_of_view_eq hview
  | refresh source => exact hs.doing out now fun r => (Place.view_ofRequested source r).trans hview
  | clear => exact hs.put_of_view_eq hview
  | size => exact hs.put_of_view_eq hview

/-- **A move keeps the invariant.** -/
theorem next (hs : c.Sound) (out : Surroundings) (move : Move n) : (c.next out move).Sound := by
  cases move with
  | start t errand =>
    rw [Crowd.next]
    cases h : c.start out t errand with
    | none => exact hs
    | some c' => exact hs.start h
  | go t =>
    rw [Crowd.next]
    cases h : c.step out t with
    | none => exact hs
    | some c' => exact hs.step h

/-- **It holds at all times.** -/
theorem after (hs : c.Sound) (out : Surroundings) (moves : List (Move n)) :
    (c.after out moves).Sound := by
  induction moves using List.reverseRecOn with
  | nil => exact hs
  | append_singleton moves move ih =>
    rw [after_concat]
    exact ih.next out move

end Sound
end Crowd
end Retrieval
end TokenTrust

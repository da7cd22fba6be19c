/-
# One fetch for all

Any number of callers get the keys of one source of which nothing live is stored, each once, and
their steps come in any order.  They do not all ask the network.  They queue at one gate, the first
one who is let through asks, and whoever is let through after a request was answered with keys finds
them stored.  A request that fails, by an error or by a crash, only costs the caller who made it:
the next one in the queue asks again.

What has happened is known from who has asked so far, in order (`Crowd.askers`), and from the
answers alone: what each caller has got by then (`Gathering.Earned`), where it can be
(`Gathering.Located`), and whether keys are stored (`Gathering.Stocked`).  `Gathering.Going` puts
this together and is kept by every step (`Going.step`).  It rests on the gate: nobody else is behind
it while a caller looks a second time, asks and stores.
-/
import TokenTrust.Proofs.Exclusion
import TokenTrust.Proofs.Progress
import TokenTrust.Proofs.Room

namespace TokenTrust
namespace Retrieval

open TokenTrust.Action

/-! ## 1. Who asks -/

namespace Crowd

variable {n : Nat} {c c' : Crowd n} {t u : Fin n} {p : Place} {out : Surroundings}

/-- Who makes a request in a move, if anybody does. -/
def asker? (c : Crowd n) : Move n → Option (Fin n)
  | .start _ _ => none
  | .go t =>
    match c.place t with
    | .inside _ _ .bound => some t
    | _ => none

/-- Who makes the requests in some moves, in their order. -/
def askers (out : Surroundings) (c : Crowd n) : List (Move n) → List (Fin n)
  | [] => []
  | move :: moves => (c.asker? move).toList ++ askers out (c.next out move) moves

theorem askers_concat (c : Crowd n) (moves : List (Move n)) (move : Move n) :
    c.askers out (moves ++ [move]) =
      c.askers out moves ++ ((c.after out moves).asker? move).toList := by
  induction moves generalizing c with
  | nil => simp [askers, after]
  | cons m moves ih =>
    rw [List.cons_append, askers, askers, ih, List.append_assoc]
    rfl

end Crowd

namespace Place

/-- What a caller wants who has not asked yet. -/
def seeks? : Place → Option Wanted
  | .asking w | .looking w | .unhelped w | .registering w | .enrolling w _
  | .inside w _ .queued | .inside w _ .admitted | .inside w _ .checking
  | .inside w _ .bound => some w
  | _ => none

/-- What a caller has got who is on its way back. -/
def result? : Place → Option Gotten
  | .inside _ _ (.done r) | .inside _ _ (.leaving r) | .inside _ _ (.inspecting r)
  | .inside _ _ (.removing r) | .inside _ _ (.parting r) | .returned (.keys r) => some r
  | _ => none

/-- Whether a caller has found nothing behind the gate, and has not stored anything since. -/
def isBusy : Place → Bool
  | .inside _ _ .bound | .inside _ _ (.fetching _) | .inside _ _ (.carrying _ _)
  | .inside _ _ (.dated _ _ _) | .inside _ _ (.storing _ _ _) => true
  | _ => false

end Place

namespace Place

variable {p : Place}

/-- Who has not asked carries nothing. -/
theorem fetches?_of_seeks? {v : Wanted} (h : p.seeks? = some v) : p.fetches? = none := by
  cases p with
  | inside v' g phase =>
    cases phase with
    | queued | admitted | checking | bound => rfl
    | _ => exact nomatch h
  | idle | returned => exact nomatch h
  | _ => rfl

/-- Neither does who is on its way back. -/
theorem fetches?_of_result? {r : Gotten} (h : p.result? = some r) : p.fetches? = none := by
  cases p with
  | inside v g phase =>
    cases phase with
    | fetching | carrying | dated | storing => exact nomatch h
    | _ => rfl
  | _ => rfl

theorem seeks?_of_result? {r : Gotten} (h : p.result? = some r) : p.seeks? = none := by
  cases p with
  | inside v g phase =>
    cases phase with
    | queued | admitted | checking | bound => exact nomatch h
    | _ => rfl
  | returned o => rfl
  | _ => exact nomatch h

theorem isBusy_of_result? {r : Gotten} (h : p.result? = some r) : p.isBusy = false := by
  cases p with
  | inside v g phase =>
    cases phase with
    | bound | fetching | carrying | dated | storing => exact nomatch h
    | _ => rfl
  | _ => rfl

/-- Who comes from the gate brings what it has got. -/
theorem result?_ofDone (v : Wanted) (g : Gate) (r : Gotten) :
    (inside v g (.ofDone r)).result? = some r := by
  cases r with
  | ok got => rfl
  | error f => cases f <;> rfl

end Place

/-! ## 2. What callers get -/

/-- Callers who get the keys of one source, and the state in which they begin. -/
structure Gathering where
  out : Surroundings
  source : KeySource
  state : State

namespace Gathering

/-- What the request with a number among those of the callers is answered with. -/
def answer (w : Gathering) (i : Nat) : Except Failure KeyDocument.Report :=
  keysIn (w.out.answer (w.state.requests.length + i) w.source)

/-- The set that is stored when keys are read. -/
def held (w : Gathering) (report : KeyDocument.Report) : HeldKeys :=
  ⟨w.state.keys.nextSerial, report.keys⟩

/-- What a caller gets who makes a request. -/
def own (w : Gathering) (i : Nat) : Gotten :=
  match w.answer i with
  | .ok report => .ok (w.held report, .network)
  | .error .crash => .error .crash
  | .error (.error e) => .error (.error (failureAt w.source.url e))

/-- What the callers want. -/
def wanted (w : Gathering) : Wanted := ⟨w.source, none⟩

variable {n : Nat}

/-- **What a caller gets**, when some have asked: what it was answered, or, if it has not asked, the
set that somebody else was answered. -/
inductive Earned (w : Gathering) (asked : List (Fin n)) (t : Fin n) : Gotten → Prop
  | own {i : Nat} (h : asked[i]? = some t) : Earned w asked t (w.own i)
  | shared {i : Nat} {report : KeyDocument.Report} (ht : t ∉ asked) (hi : i < asked.length)
    (h : w.answer i = .ok report) : Earned w asked t (.ok (w.held report, .cache))

/-- **Where a caller can be**, when some have asked. -/
inductive Located (w : Gathering) (asked : List (Fin n)) (t : Fin n) : Place → Prop
  | idle (ht : t ∉ asked) : Located w asked t .idle
  | seeking {p : Place} (ht : t ∉ asked) (hp : p.seeks? = some w.wanted) : Located w asked t p
  | fetching {g : Gate} {i : Nat} (h : asked[i]? = some t) :
    Located w asked t (.inside w.wanted g (.fetching (w.state.requests.length + i)))
  | carrying {g : Gate} {i : Nat} {report : KeyDocument.Report} (h : asked[i]? = some t)
    (ha : w.answer i = .ok report) : Located w asked t
    (.inside w.wanted g (.carrying (w.state.requests.length + i) report.keys))
  | dated {g : Gate} {i j : Nat} {report : KeyDocument.Report} (h : asked[i]? = some t)
    (ha : w.answer i = .ok report) (hj : w.state.readings ≤ j) : Located w asked t
    (.inside w.wanted g (.dated (w.state.requests.length + i) report.keys (w.out.clock j)))
  | storing {g : Gate} {i j : Nat} {report : KeyDocument.Report} (h : asked[i]? = some t)
    (ha : w.answer i = .ok report) (hj : w.state.readings ≤ j) : Located w asked t
    (.inside w.wanted g (.storing (w.state.requests.length + i) report.keys (w.out.clock j)))
  | back {p : Place} {r : Gotten} (h : w.Earned asked t r) (hp : p.result? = some r) :
    Located w asked t p

/-- **What is stored**, when some have asked: what was there when they began, while nobody has been
answered with keys or who has is still carrying them; or the keys that somebody was answered, and
then nobody is fetching or about to. -/
inductive Stocked (w : Gathering) (asked : List (Fin n)) (c : Crowd n) : Prop
  | unstored (hkeys : c.state.keys = w.state.keys)
    (hcarried : ∀ i report, i < asked.length → w.answer i = .ok report →
      ∃ t, c.Fetches t w.source (w.state.requests.length + i))
  | stored {i j : Nat} {report : KeyDocument.Report} (hi : i < asked.length)
    (ha : w.answer i = .ok report) (hj : w.state.readings ≤ j)
    (hfound : c.state.keys.find? w.source =
      some ⟨w.held report, w.out.clock j, w.out.clock j + w.state.keys.ttl⟩)
    (hnobody : ∀ t, (c.place t).isBusy = false)

/-- **What holds at all times** of callers who get the keys of one source, when some have asked. -/
structure Going (w : Gathering) (asked : List (Fin n)) (c : Crowd n) : Prop where
  requests : c.state.requests = w.state.requests ++ asked.map fun _ => w.source
  readings : w.state.readings ≤ c.state.readings
  /-- Nobody asks twice. -/
  once : asked.Nodup
  /-- Nobody asks after somebody was answered with keys. -/
  last : ∀ i report, w.answer i = .ok report → i < asked.length → i + 1 = asked.length
  located : ∀ t, w.Located asked t (c.place t)
  stocked : w.Stocked asked c

/-- **Callers who find nothing**: there is no live entry when they begin, there is room for one, and
the clock does not go back. -/
structure Misses (w : Gathering) : Prop where
  clock : ∀ i j, i ≤ j → w.out.clock i ≤ w.out.clock j
  room : w.state.keys.Takes w.source (w.out.clock w.state.readings)
  miss : w.state.keys.live? w.source (w.out.clock w.state.readings) = none

/-- **A moment up to which no entry expires** that is stored after the callers have begun.  If
something is stored at that moment, it can be told when it expires. -/
structure Lasts (w : Gathering) (moment : Instant) : Prop where
  live : moment < w.out.clock w.state.readings + w.state.keys.ttl
  told : w.state.keys.expiryTold moment = true

variable {w : Gathering} {asked : List (Fin n)} {c c' : Crowd n} {t u : Fin n} {p : Place}
  {g : Gate}

/-! ## 3. What a step keeps -/

theorem own_of_ok {i : Nat} {report : KeyDocument.Report} (h : w.answer i = .ok report) :
    w.own i = .ok (w.held report, .network) := by
  rw [own, h]

/-- Another caller asks, and this one is where it was. -/
theorem Located.mono (hu : u ≠ t) (h : w.Located asked u p) :
    w.Located (asked ++ [t]) u p := by
  have kept {i : Nat} (hi : asked[i]? = some u) : (asked ++ [t])[i]? = some u := by
    rw [List.getElem?_append_left (List.getElem?_eq_some_iff.mp hi).1, hi]
  have absent (hu' : u ∉ asked) : u ∉ asked ++ [t] := by simp [hu', hu]
  cases h with
  | idle ht => exact .idle (absent ht)
  | seeking ht hp => exact .seeking (absent ht) hp
  | fetching hi => exact .fetching (kept hi)
  | carrying hi ha => exact .carrying (kept hi) ha
  | dated hi ha hj => exact .dated (kept hi) ha hj
  | storing hi ha hj => exact .storing (kept hi) ha hj
  | back hr hp =>
    refine .back ?_ hp
    cases hr with
    | own hi => exact .own (kept hi)
    | shared ht hi ha => exact .shared (absent ht) (by simp; omega) ha

/-- Who seeks has not asked, and wants the keys of the source. -/
theorem Located.of_seeks? (h : w.Located asked t p) {v : Wanted} (hv : p.seeks? = some v) :
    t ∉ asked ∧ v = w.wanted := by
  cases h with
  | seeking ht hp => exact ⟨ht, Option.some.inj (hv.symm.trans hp)⟩
  | back _ hp => exact nomatch hv.symm.trans (Place.seeks?_of_result? hp)
  | _ => exact nomatch hv

/-- Who comes back has got something. -/
theorem Located.of_result? (h : w.Located asked t p) {r : Gotten} (hr : p.result? = some r) :
    w.Earned asked t r := by
  cases h with
  | back he hp =>
    obtain rfl := Option.some.inj (hp.symm.trans hr)
    exact he
  | seeking _ hp => exact nomatch hp.symm.trans (Place.seeks?_of_result? hr)
  | _ => exact nomatch hr

/-- Who is busy is behind the gate of the source. -/
theorem Located.view_of_isBusy (h : w.Located asked t p) (hb : p.isBusy = true) :
    ∃ g, p.view = .through w.source g := by
  cases p with
  | inside w₁ g phase =>
    refine ⟨g, ?_⟩
    cases phase with
    | bound =>
      cases h with
      | seeking _ hp =>
        obtain rfl := Option.some.inj hp
        rfl
      | back _ hp => exact nomatch hp
    | fetching k =>
      cases h with
      | fetching => rfl
      | seeking _ hp => exact nomatch hp
      | back _ hp => exact nomatch hp
    | carrying k keys =>
      cases h with
      | carrying => rfl
      | seeking _ hp => exact nomatch hp
      | back _ hp => exact nomatch hp
    | dated k keys moment =>
      cases h with
      | dated => rfl
      | seeking _ hp => exact nomatch hp
      | back _ hp => exact nomatch hp
    | storing k keys moment =>
      cases h with
      | storing => rfl
      | seeking _ hp => exact nomatch hp
      | back _ hp => exact nomatch hp
    | _ => exact nomatch hb
  | _ => exact nomatch hb

namespace Stocked

/-- Nothing is stored while somebody is busy. -/
theorem of_isBusy (h : w.Stocked asked c) (hb : (c.place t).isBusy = true) :
    c.state.keys = w.state.keys ∧ ∀ i report, i < asked.length → w.answer i = .ok report →
      ∃ u, c.Fetches u w.source (w.state.requests.length + i) := by
  cases h with
  | unstored hkeys hcarried => exact ⟨hkeys, hcarried⟩
  | stored _ _ _ _ hnobody => exact nomatch hb.symm.trans (hnobody t)

/-- **What a look finds** is what somebody was answered. -/
theorem earned_of_live? (h : w.Stocked asked c) (hm : w.Misses) (ht : t ∉ asked) {now : Instant}
    (hnow : w.out.clock w.state.readings ≤ now) {held : HeldKeys}
    (hl : c.state.keys.live? w.source now = some held) :
    w.Earned asked t (.ok (held, .cache)) := by
  cases h with
  | unstored hkeys _ =>
    rw [hkeys] at hl
    exact nomatch hm.miss.symm.trans (KeyCache.live?_of_le hl hnow)
  | stored hi ha _ hfound _ =>
    obtain ⟨e, he, -, rfl⟩ := KeyCache.live?_eq_some_iff.mp hl
    obtain rfl := Option.some.inj (hfound.symm.trans he)
    exact .shared ht hi ha

/-- A caller goes somewhere, and nothing is stored.  It takes what it carries with it, and it is
busy afterwards only if it was before or has just found nothing. -/
theorem goTo (h : w.Stocked asked c) (hm : w.Misses) (hplace : c'.place = (c.put t p).place)
    (hkeys : c'.state.keys = c.state.keys)
    (hfetches : ∀ i report, w.answer i = .ok report →
      (c.place t).fetches? = some (w.source, w.state.requests.length + i) →
      p.fetches? = some (w.source, w.state.requests.length + i))
    (hbusy : p.isBusy = true → (c.place t).isBusy = true ∨
      ∃ now, w.Lasts now ∧ c.state.keys.live? w.source now = none) : w.Stocked asked c' := by
  cases h with
  | unstored hold hcarried =>
    refine .unstored (hkeys.trans hold) fun i report hi ha => ?_
    obtain ⟨u, hu⟩ := hcarried i report hi ha
    refine ⟨u, ?_⟩
    rw [Crowd.Fetches, hplace]
    exact Crowd.forall_put (P := fun v q => v = u → q.fetches? = some (w.source, _))
      (fun htu => hfetches i report ha (by rw [htu]; exact hu))
      (fun v _ hvu => by rw [hvu]; exact hu) u rfl
  | @stored i j report hi ha hj hfound hnobody =>
    refine .stored hi ha hj (hkeys ▸ hfound) fun u => ?_
    rw [hplace]
    refine Crowd.forall_put (P := fun _ q => q.isBusy = false) ?_ (fun v _ => hnobody v) u
    cases hb : p.isBusy with
    | false => rfl
    | true =>
      rcases hbusy hb with hwas | ⟨now, hlasts, hnone⟩
      · cases hwas.symm.trans (hnobody t)
      · -- what was stored is still live
        have hlive : now < w.out.clock j + w.state.keys.ttl :=
          Nat.lt_of_lt_of_le hlasts.live (Nat.add_le_add_right (hm.clock _ _ hj) _)
        cases hnone.symm.trans (KeyCache.live?_eq_some_iff.mpr ⟨_, hfound, hlive, rfl⟩)

end Stocked

namespace Going

/-- A caller goes somewhere, and nothing is asked or stored. -/
theorem goTo (h : w.Going asked c) (hm : w.Misses) (hplace : c'.place = (c.put t p).place)
    (hkeys : c'.state.keys = c.state.keys) (hrequests : c'.state.requests = c.state.requests)
    (hreadings : c.state.readings ≤ c'.state.readings) (hp : w.Located asked t p)
    (hfetches : ∀ i report, w.answer i = .ok report →
      (c.place t).fetches? = some (w.source, w.state.requests.length + i) →
      p.fetches? = some (w.source, w.state.requests.length + i))
    (hbusy : p.isBusy = true → (c.place t).isBusy = true ∨
      ∃ now, w.Lasts now ∧ c.state.keys.live? w.source now = none) : w.Going asked c' where
  requests := hrequests.trans h.requests
  readings := Nat.le_trans h.readings hreadings
  once := h.once
  last := h.last
  located u := by
    rw [hplace]
    exact Crowd.forall_put (P := fun v q => w.Located asked v q) hp (fun v _ => h.located v) u
  stocked := h.stocked.goTo hm hplace hkeys hfetches hbusy

/-- A caller goes on, and nothing is done but with locks. -/
theorem pass (h : w.Going asked c) (hm : w.Misses) (hplace : c'.place = (c.put t p).place)
    (hstate : c'.state = c.state) (hp : w.Located asked t p)
    (hfetches : p.fetches? = (c.place t).fetches?) (hbusy : p.isBusy = (c.place t).isBusy) :
    w.Going asked c' :=
  h.goTo hm hplace (by rw [hstate]) (by rw [hstate]) (by rw [hstate]) hp
    (fun _ _ _ hf => hfetches.trans hf) fun hb => Or.inl (hbusy ▸ hb)

/-- **A caller asks**, since nobody has been answered with keys so far. -/
theorem ask (h : w.Going asked c) (hs : c.Sound) (hq : c.place t = .inside w.wanted g .bound)
    (ht : t ∉ asked) (line : LogLine) : w.Going (asked ++ [t])
      ({ c with state := c.state.asking line w.source }.put t
        (.inside w.wanted g (.fetching c.state.requests.length))) := by
  have hbusy : (c.place t).isBusy = true := by rw [hq]; rfl
  have hthrough : (c.place t).view = .through w.source g := by rw [hq]; rfl
  obtain ⟨hkeys, hcarried⟩ := h.stocked.of_isBusy hbusy
  have failed (i : Nat) (report : KeyDocument.Report) (hi : i < asked.length) :
      w.answer i ≠ .ok report := by
    intro ha
    obtain ⟨u, hu⟩ := hcarried i report hi ha
    obtain ⟨g', hview⟩ := Place.view_of_fetches? hu
    obtain rfl : u = t := hs.eq_of_through hview hthrough
    rw [Crowd.Fetches, hq] at hu
    cases hu
  have hnumber : c.state.requests.length = w.state.requests.length + asked.length := by
    rw [h.requests, List.length_append, List.length_map]
  have hfetching : w.Located (asked ++ [t]) t
      (.inside w.wanted g (.fetching c.state.requests.length)) := by
    rw [hnumber]
    exact .fetching (by simp)
  refine ⟨?_, h.readings, ?_, fun i report ha hi => ?_, fun u => ?_, ?_⟩
  · change (c.state.asking line w.source).requests = _
    rw [State.asking_requests, h.requests, List.map_append, List.append_assoc]
    rfl
  · exact List.nodup_append.mpr ⟨h.once, List.nodup_singleton t, fun a ha b hb hab =>
      ht (List.mem_singleton.mp hb ▸ hab ▸ ha)⟩
  · rw [List.length_append, List.length_singleton] at hi ⊢
    have hnot : ¬ i < asked.length := fun hlt => failed i report hlt ha
    omega
  · exact Crowd.forall_put (P := fun v q => w.Located (asked ++ [t]) v q) hfetching
      (fun v hv => (h.located v).mono hv) u
  · refine .unstored hkeys fun i report hi ha => ⟨t, ?_⟩
    rw [List.length_append, List.length_singleton] at hi
    have hnot : ¬ i < asked.length := fun hlt => failed i report hlt ha
    obtain rfl : i = asked.length := by omega
    rw [Crowd.Fetches, Crowd.put_place_self, hnumber]
    rfl

/-- **A caller stores what it was answered**, and it stays stored. -/
theorem store (h : w.Going asked c) (hm : w.Misses) (hs : c.Sound) {i j : Nat}
    {report : KeyDocument.Report}
    (hq : c.place t = .inside w.wanted g (.storing (w.state.requests.length + i) report.keys
      (w.out.clock j)))
    (hi : asked[i]? = some t) (ha : w.answer i = .ok report) (hj : w.state.readings ≤ j)
    (hplace : c'.place = (c.put t
      (.inside w.wanted g (.done (.ok (⟨c.state.keys.nextSerial, report.keys⟩, .network))))).place)
    (hstate : c'.state =
      { c.state with keys := (c.state.keys.store w.source report.keys (w.out.clock j)).2 }) :
    w.Going asked c' := by
  have hbusy : (c.place t).isBusy = true := by rw [hq]; rfl
  have hthrough : (c.place t).view = .through w.source g := by rw [hq]; rfl
  obtain ⟨hkeys, -⟩ := h.stocked.of_isBusy hbusy
  have hroom : w.state.keys.Takes w.source (w.out.clock j) := hm.room.of_le (hm.clock _ _ hj)
  rw [hkeys] at hplace hstate
  refine ⟨?_, ?_, h.once, h.last, fun u => ?_, ?_⟩
  · rw [hstate]
    exact h.requests
  · rw [hstate]
    exact h.readings
  · rw [hplace]
    refine Crowd.forall_put (P := fun v q => w.Located asked v q) ?_ (fun v _ => h.located v) u
    exact .back (.own hi) (by rw [own_of_ok ha]; rfl)
  · refine .stored (List.getElem?_eq_some_iff.mp hi).1 ha hj ?_ fun u => ?_
    · rw [hstate]
      exact KeyCache.find?_store_of_takes hroom report.keys
    · rw [hplace]
      refine Crowd.forall_put (P := fun _ q => q.isBusy = false) rfl (fun v hv => ?_) u
      cases hb : (c.place v).isBusy with
      | false => rfl
      | true =>
        obtain ⟨g', hview⟩ := (h.located v).view_of_isBusy hb
        exact absurd (hs.eq_of_through hview hthrough) hv

/-- Who does something ends in the state, and goes where the result leads. -/
theorem doing_eq {α : Type} {x : Action α} {goOn : Except Failure α → Place}
    {r : Except Failure α} {s : State} (h : x.run w.out c.state = (r, s)) :
    c.doing w.out t x goOn = { c with state := s }.put t (goOn r) := by
  rw [Crowd.doing, h]

/-- **What a caller makes of the answer** to its request. -/
theorem read (h : w.Going asked c) (hm : w.Misses) {i : Nat}
    (hq : c.place t = .inside w.wanted g (.fetching (w.state.requests.length + i)))
    (hi : asked[i]? = some t) :
    w.Going asked (c.doing w.out t (readKeys w.source (w.state.requests.length + i))
      fun r => .inside w.wanted g (.ofRead (w.state.requests.length + i) r)) := by
  have hrun := @run_readKeys w.out c.state w.source (w.state.requests.length + i)
  cases ha : w.answer i with
  | ok report =>
    rw [show keysIn _ = _ from ha] at hrun
    rw [doing_eq hrun]
    exact h.goTo (p := .inside w.wanted g (.carrying _ report.keys)) hm rfl rfl
      (State.logging_requests _ _) (Nat.le_refl _) (.carrying hi ha)
      (fun _ _ _ hf => by rw [hq] at hf; exact hf) fun _ => Or.inl (by rw [hq]; rfl)
  | error f =>
    have failed {d : Crowd n} {r : Gotten} (hr : r = w.own i)
        (hplace : d.place = (c.put t (.inside w.wanted g (.done r))).place)
        (hkeys : d.state.keys = c.state.keys) (hrequests : d.state.requests = c.state.requests)
        (hreadings : c.state.readings ≤ d.state.readings) : w.Going asked d := by
      refine h.goTo (p := .inside w.wanted g (.done r)) hm hplace hkeys hrequests hreadings
        (.back (.own hi) (by rw [← hr]; rfl)) (fun i' report ha' hf => ?_) nofun
      rw [hq] at hf
      obtain ⟨-, hnumber⟩ := Prod.mk.inj (Option.some.inj hf)
      obtain rfl : i = i' := Nat.add_left_cancel hnumber
      exact nomatch ha.symm.trans ha'
    rw [show keysIn _ = _ from ha] at hrun
    cases f with
    | crash =>
      rw [doing_eq hrun]
      exact failed (by rw [own, ha]) rfl rfl rfl (Nat.le_refl _)
    | error e =>
      rw [doing_eq hrun]
      exact failed (by rw [own, ha]) rfl rfl (State.logging_requests _ _) (Nat.le_refl _)

/-- Who seeks goes on seeking. -/
theorem seek (h : w.Going asked c) (hm : w.Misses) {v : Wanted}
    (hq : (c.place t).seeks? = some v) (hplace : c'.place = (c.put t p).place)
    (hstate : c'.state = c.state) (hp : p.seeks? = some v) (hbusy : p.isBusy = false) :
    w.Going asked c' := by
  obtain ⟨ht, rfl⟩ := (h.located t).of_seeks? hq
  refine h.goTo hm hplace (by rw [hstate]) (by rw [hstate]) (by rw [hstate]) (.seeking ht hp)
    (fun _ _ _ hf => ?_) fun hb => nomatch hb.symm.trans hbusy
  exact nomatch (Place.fetches?_of_seeks? hq).symm.trans hf

/-- Who comes back goes on coming back. -/
theorem comeBack (h : w.Going asked c) (hm : w.Misses) {r : Gotten}
    (hq : (c.place t).result? = some r) (hplace : c'.place = (c.put t p).place)
    (hstate : c'.state = c.state) (hp : p.result? = some r) : w.Going asked c' := by
  refine h.goTo hm hplace (by rw [hstate]) (by rw [hstate]) (by rw [hstate])
    (.back ((h.located t).of_result? hq) hp) (fun _ _ _ hf => ?_) fun hb =>
      nomatch hb.symm.trans (Place.isBusy_of_result? hp)
  exact nomatch (Place.fetches?_of_result? hq).symm.trans hf

/-- **Who looks** finds what somebody was answered, or goes on seeking, and then nothing is
stored. -/
theorem look (h : w.Going asked c) (hm : w.Misses) (goOn : Option HeldKeys → Place)
    (hq : (c.place t).seeks? = some w.wanted)
    (hplace : c'.place =
      (c.put t (goOn (c.state.keys.live? w.source (w.out.clock c.state.readings)))).place)
    (hstate : c'.state = c.state.advance 1)
    (hfound : ∀ held, (goOn (some held)).result? = some (.ok (held, .cache)))
    (hmissed : (goOn none).seeks? = some w.wanted)
    (hlasts : w.Lasts (w.out.clock c.state.readings)) : w.Going asked c' := by
  obtain ⟨ht, -⟩ := (h.located t).of_seeks? hq
  have hnow : w.out.clock w.state.readings ≤ w.out.clock c.state.readings :=
    hm.clock _ _ h.readings
  have hcarries (i : Nat) (report : KeyDocument.Report) (_ : w.answer i = .ok report)
      (hf : (c.place t).fetches? = some (w.source, w.state.requests.length + i)) : False :=
    nomatch (Place.fetches?_of_seeks? hq).symm.trans hf
  have hreadings : c.state.readings ≤ c'.state.readings := by
    rw [hstate]
    exact Nat.le_succ _
  cases hl : c.state.keys.live? w.source (w.out.clock c.state.readings) with
  | some held =>
    rw [hl] at hplace
    have hearned := h.stocked.earned_of_live? hm ht hnow hl
    exact h.goTo hm hplace (by rw [hstate]; rfl) (by rw [hstate]; rfl) hreadings
      (.back hearned (hfound held)) (fun i report ha hf => (hcarries i report ha hf).elim)
      fun hb => nomatch hb.symm.trans (Place.isBusy_of_result? (hfound held))
  | none =>
    rw [hl] at hplace
    exact h.goTo hm hplace (by rw [hstate]; rfl) (by rw [hstate]; rfl) hreadings
      (.seeking ht hmissed) (fun i report ha hf => (hcarries i report ha hf).elim)
      fun _ => Or.inr ⟨_, hlasts, hl⟩

/-- **A step keeps it.** -/
theorem step (h : w.Going asked c) (hm : w.Misses) (hs : c.Sound)
    (hstep : c.step w.out t = some c') (hlasts : ∀ j < c'.state.readings, w.Lasts (w.out.clock j)) :
    w.Going (asked ++ (c.asker? (.go t)).toList) c' := by
  have hcase := Crowd.stepping_of_step hstep
  have hloc := h.located t
  rw [Crowd.asker?]
  generalize hq : c.place t = q at hcase hloc
  have same {d : Crowd n} (hd : w.Going asked d) :
      w.Going (asked ++ (none : Option (Fin n)).toList) d := by
    rw [Option.toList_none, List.append_nil]
    exact hd
  have seeking {v : Wanted} (hv : q.seeks? = some v) : (c.place t).seeks? = some v := hq ▸ hv
  have returning {r : Gotten} (hr : q.result? = some r) : (c.place t).result? = some r := hq ▸ hr
  cases hcase with
  | asking => exact same (h.seek hm (seeking rfl) rfl rfl rfl rfl)
  | @looking v =>
    obtain ⟨-, rfl⟩ := hloc.of_seeks? rfl
    exact same (h.look hm (fun found => .ofLook w.wanted (.ok found)) (seeking rfl) rfl rfl
      (fun _ => rfl) rfl (hlasts _ (Nat.lt_succ_self _)))
  | unhelped | found | missed | enrolling | queued | admitted =>
    exact same (h.seek hm (seeking rfl) rfl rfl rfl rfl)
  | @checking v g =>
    obtain ⟨-, rfl⟩ := hloc.of_seeks? rfl
    exact same (h.look hm (fun found => .inside w.wanted g (.ofLook (.ok found))) (seeking rfl) rfl
      rfl (fun _ => rfl) rfl (hlasts _ (Nat.lt_succ_self _)))
  | @bound v g =>
    obtain ⟨ht, rfl⟩ := hloc.of_seeks? rfl
    have hrun : (askForKeys w.wanted.source).run w.out c.state = _ := run_askForKeys
    rw [doing_eq hrun]
    exact h.ask hs hq ht _
  | @fetching v g k =>
    refine same ?_
    cases hloc with
    | fetching hi => exact h.read hm hq hi
    | seeking _ hp => cases hp
    | back _ hp => cases hp
  | @carrying v g k keys =>
    refine same ?_
    cases hloc with
    | @carrying g i report hi ha =>
      have hbusy : (c.place t).isBusy = true := by rw [hq]; rfl
      have htold : c.state.keys.expiryTold (w.out.clock c.state.readings) = true := by
        rw [(h.stocked.of_isBusy hbusy).1]
        have hread : (dateKeys.run w.out c.state).2 = c.state.advance 1 := by
          rw [run_dateKeys]
          split <;> rfl
        refine (hlasts _ ?_).told
        change c.state.readings < (dateKeys.run w.out c.state).2.readings
        rw [hread]
        exact Nat.lt_succ_self _
      rw [doing_eq (run_dateKeys.trans (if_pos htold))]
      exact h.goTo (p := .inside w.wanted g (.dated _ report.keys _)) hm rfl rfl rfl
        (Nat.le_succ _) (.dated hi ha h.readings) (fun _ _ _ hf => by rw [hq] at hf; exact hf)
        fun _ => Or.inl (by rw [hq]; rfl)
    | seeking _ hp => cases hp
    | back _ hp => cases hp
  | @dated v g k keys moment =>
    refine same ?_
    cases hloc with
    | @dated g i j report hi ha hj =>
      exact h.pass (p := .inside w.wanted g (.storing _ report.keys _)) hm rfl rfl
        (.storing hi ha hj) (by rw [hq]; rfl) (by rw [hq]; rfl)
    | seeking _ hp => cases hp
    | back _ hp => cases hp
  | @storing v g k keys moment =>
    refine same ?_
    cases hloc with
    | @storing g i j report hi ha hj => exact h.store hm hs hq hi ha hj rfl rfl
    | seeking _ hp => cases hp
    | back _ hp => cases hp
  | @done v g r =>
    exact same (h.comeBack hm (returning rfl) rfl rfl (Place.result?_ofDone v g r))
  | leaving | unshared | shared | removing | parting =>
    exact same (h.comeBack hm (returning rfl) rfl rfl rfl)
  | clearing | emptying | measuring | counting =>
    -- nobody has set out for that
    cases hloc with
    | seeking _ hp => cases hp
    | back _ hp => cases hp

/-- Who sets out seeks. -/
theorem start (h : w.Going asked c) (hm : w.Misses) (hidle : c.place t = .idle)
    (hstart : c.start w.out t (.get w.source) = some c') : w.Going asked c' := by
  simp only [Crowd.start, Option.ite_none_right_eq_some, Option.some.injEq] at hstart
  obtain ⟨-, rfl⟩ := hstart
  have hloc := h.located t
  rw [hidle] at hloc
  have ht : t ∉ asked := by
    cases hloc with
    | idle ht => exact ht
    | seeking _ hp => cases hp
    | back _ hp => cases hp
  exact h.goTo (p := .asking w.wanted) hm rfl rfl rfl (Nat.le_refl _) (.seeking ht rfl)
    (fun _ _ _ hf => by rw [hidle] at hf; cases hf) (by rintro ⟨⟩)

end Going

/-! ## 4. Runs -/

/-- **Callers who get the keys of one source**, each once, and do nothing else. -/
structure Together (w : Gathering) (moves : List (Crowd.Move n)) : Prop where
  gets : ∀ t errand, .start t errand ∈ moves → errand = .get w.source
  once : ∀ t, moves.count (.start t (.get w.source)) ≤ 1

theorem Together.of_concat {moves : List (Crowd.Move n)} {move : Crowd.Move n}
    (h : w.Together (moves ++ [move])) : w.Together moves where
  gets t errand he := h.gets t errand (List.mem_append_left _ he)
  once t := Nat.le_trans (List.Sublist.count_le _ (List.sublist_append_left _ _)) (h.once t)

/-- Whoever sets out has not done so before. -/
theorem Together.not_mem {moves : List (Crowd.Move n)} {errand : Errand}
    (h : w.Together (moves ++ [.start t errand])) (errand' : Errand) :
    .start t errand' ∉ moves := by
  intro he
  obtain rfl := h.gets t errand (List.mem_append_right _ List.mem_cons_self)
  obtain rfl := h.gets t errand' (List.mem_append_left _ he)
  have honce := h.once t
  rw [List.count_append, List.count_singleton_self] at honce
  have hpos := List.count_pos_iff.mpr he
  omega

/-- At first nobody has asked. -/
theorem going_initial (hidle : ∀ t, c.place t = .idle) (hstate : c.state = w.state) :
    w.Going [] c where
  requests := by rw [hstate, List.map_nil, List.append_nil]
  readings := by rw [hstate]
  once := List.nodup_nil
  last _ _ _ hi := nomatch hi
  located t := by
    rw [hidle]
    exact .idle List.not_mem_nil
  stocked := .unstored (by rw [hstate]) fun _ _ hi => nomatch hi

/-- **What holds of callers who get the keys of one source**, at all times. -/
theorem going_after (hm : w.Misses) (hs : c.Sound) (hidle : ∀ t, c.place t = .idle)
    (hstate : c.state = w.state) (moves : List (Crowd.Move n)) (hmoves : w.Together moves)
    (hlasts : ∀ j < (c.after w.out moves).state.readings, w.Lasts (w.out.clock j)) :
    w.Going (c.askers w.out moves) (c.after w.out moves) := by
  induction moves using List.reverseRecOn with
  | nil => exact going_initial hidle hstate
  | append_singleton moves move ih =>
    rw [Crowd.after_concat] at hlasts ⊢
    rw [Crowd.askers_concat]
    have hbefore := ih hmoves.of_concat fun j hj =>
      hlasts j (Nat.lt_of_lt_of_le hj (Crowd.readings_le_next _ _ _))
    have hsound := hs.after w.out moves
    have still {d : Crowd n} (hd : w.Going (c.askers w.out moves) d) :
        w.Going (c.askers w.out moves ++ (none : Option (Fin n)).toList) d := by
      rw [Option.toList_none, List.append_nil]
      exact hd
    cases move with
    | start t errand =>
      have ht := Crowd.idle_after w.out (hidle t) moves hmoves.not_mem
      obtain rfl := hmoves.gets t errand (List.mem_append_right _ List.mem_cons_self)
      rw [Crowd.next]
      cases hstart : (c.after w.out moves).start w.out t (.get w.source) with
      | none => exact still hbefore
      | some d => exact still (hbefore.start hm ht hstart)
    | go t =>
      rw [Crowd.next] at hlasts ⊢
      cases hstep : (c.after w.out moves).step w.out t with
      | none =>
        -- who is about to ask can always go on
        have hnone : (c.after w.out moves).asker? (.go t) = none := by
          rw [Crowd.asker?]
          split
          case h_1 hq =>
            rw [Crowd.step, hq] at hstep
            cases hstep
          case h_2 => rfl
        rw [hnone]
        exact still hbefore
      | some d =>
        rw [hstep] at hlasts
        exact hbefore.step hm hsound hstep hlasts

/-- Who has returned has got something. -/
theorem Located.of_returned {o : Outcome} (h : w.Located asked t (.returned o)) :
    ∃ r, o = .keys r ∧ w.Earned asked t r := by
  cases o with
  | keys r => exact ⟨r, rfl, h.of_result? rfl⟩
  | cleared =>
    cases h with
    | seeking _ hp => exact nomatch hp
    | back _ hp => exact nomatch hp
  | size k =>
    cases h with
    | seeking _ hp => exact nomatch hp
    | back _ hp => exact nomatch hp

/-- **One request with keys serves everybody.**  Callers get the keys of one source, each once, in
steps that come in any order.  When they begin, nobody is under way and no live entry is stored;
there is room for one, and what is stored does not expire before they are through, at a moment that
can be told.  Then

* no caller asks more than once;
* after a request that is answered with keys nobody asks, and each caller who has not asked returns
  the set that was stored then;
* if the first request is answered with keys, then it is the only one, and all callers return that
  set;
* each caller who returns has got what it was answered, or, if it has not asked, the set that
  somebody was answered, however the requests before have failed;
* as long as one of them has not returned, somebody can go on, and no more than eighteen steps are
  taken for each of them. -/
theorem one_fetch_serves_all (hm : w.Misses) (hs : c.Sound) (hquiet : c.Quiet)
    (hidle : ∀ t, c.place t = .idle) (hstate : c.state = w.state) {moves : List (Crowd.Move n)}
    (hmoves : w.Together moves)
    (hlasts : ∀ j < (c.after w.out moves).state.readings, w.Lasts (w.out.clock j)) :
    let asked := c.askers w.out moves
    let c' := c.after w.out moves
    (c'.state.requests = w.state.requests ++ asked.map (fun _ => w.source) ∧ asked.Nodup) ∧
    (∀ i report, w.answer i = .ok report → i < asked.length → asked.length = i + 1 ∧
      ∀ t o, c'.place t = .returned o → t ∉ asked → o = .keys (.ok (w.held report, .cache))) ∧
    (∀ report, w.answer 0 = .ok report → asked.length ≤ 1 ∧
      ∀ t o, c'.place t = .returned o →
        asked.length = 1 ∧ ∃ origin, o = .keys (.ok (w.held report, origin))) ∧
    (∀ t o, c'.place t = .returned o → ∃ r, o = .keys r ∧ w.Earned asked t r) ∧
    (∀ t, .start t (.get w.source) ∈ moves → (∀ o, c'.place t ≠ .returned o) →
      ∃ u, c'.step w.out u ≠ none) ∧
    c.taken w.out moves ≤ 18 * moves.countP Crowd.Move.isStart := by
  intro asked c'
  have hg : w.Going asked c' := going_after hm hs hidle hstate moves hmoves hlasts
  have hreturned (t : Fin n) (o : Outcome) (ho : c'.place t = .returned o) :
      ∃ r, o = .keys r ∧ w.Earned asked t r := by
    have hloc := hg.located t
    rw [ho] at hloc
    exact hloc.of_returned
  refine ⟨⟨hg.requests, hg.once⟩, fun i report ha hi => ?_, fun report ha => ?_, hreturned,
    fun t hstart hunreturned => ?_, ?_⟩
  · refine ⟨(hg.last i report ha hi).symm, fun t o ho ht => ?_⟩
    obtain ⟨r, rfl, hearned⟩ := hreturned t o ho
    cases hearned with
    | own hi' => exact absurd (List.mem_of_getElem? hi') ht
    | @shared i' report' _ hi' ha' =>
      have hsame : i' = i := by
        have hlast := hg.last i report ha hi
        have hlast' := hg.last i' report' ha' hi'
        omega
      subst hsame
      obtain rfl := Except.ok.inj (ha.symm.trans ha')
      rfl
  · have hone (hpos : 0 < asked.length) : asked.length = 1 := (hg.last 0 report ha hpos).symm
    refine ⟨by omega, fun t o ho => ?_⟩
    obtain ⟨r, rfl, hearned⟩ := hreturned t o ho
    cases hearned with
    | @own i hi =>
      have hlength := (List.getElem?_eq_some_iff.mp hi).1
      have hasked := hone (by omega)
      obtain rfl : i = 0 := by omega
      exact ⟨hasked, .network, by rw [own_of_ok ha]⟩
    | @shared i report' _ hi ha' =>
      have hasked := hone (by omega)
      obtain rfl : i = 0 := by omega
      obtain rfl := Except.ok.inj (ha.symm.trans ha')
      exact ⟨hasked, .cache, rfl⟩
  · refine (hquiet.attended.after w.out moves).exists_step w.out (t := t) ?_
    have hset := Crowd.ne_idle_after w.out c moves hstart
    change (c'.place t).isFree = false
    change c'.place t ≠ .idle at hset
    cases hplace : c'.place t with
    | idle => exact absurd hplace hset
    | returned o => exact absurd hplace (hunreturned o)
    | _ => rfl
  · have hleft : c.left = 0 := Finset.sum_eq_zero fun t _ => by rw [hidle]; rfl
    have htaken := Crowd.taken_add_left_le w.out c moves
    omega

/-- Two callers.  The request of the first one crashes while the second one waits at the gate; the
second one is answered with a set. -/
theorem one_fetch_serves_all_crash :
    let source : KeySource := ⟨⟨"https", some ⟨"", none, some (.domain "my.auth.com"), none⟩,
      .segments ["token_keys"], none, none⟩, none⟩
    let empty : Answer := .body (Text.Utf8.bytes "\x7b\x22keys\x22:[]\x7d")
    let out : Surroundings := ⟨fun _ => 0, 0, fun k _ => if k = 0 then .crash else empty⟩
    let w : Gathering := ⟨out, source, {}⟩
    let c : Crowd 2 := { state := {} }
    let moves : List (Crowd.Move 2) := [.start 0 (.get source), .start 1 (.get source)] ++
      List.replicate 9 (.go 0) ++ List.replicate 5 (.go 1) ++ List.replicate 3 (.go 0) ++
      List.replicate 13 (.go 1)
    (∀ t, ((c.after w.out moves).place t).isFree = true) ∧ c.askers w.out moves = [0, 1] ∧
      (c.after w.out moves).state.requests.length = 2 ∧
      ∀ t o, (c.after w.out moves).place t = .returned o →
        ∃ r, o = .keys r ∧ w.Earned (c.askers w.out moves) t r := by
  intro source empty out w c moves
  have hm : w.Misses := ⟨fun _ _ _ => Nat.le_refl _, Or.inl (by decide), rfl⟩
  have hquiet : c.Quiet := ⟨fun _ => rfl, rfl, fun _ => rfl, rfl, rfl⟩
  have htogether : w.Together moves := by
    refine ⟨fun t errand h => ?_, by decide +kernel⟩
    have hcase : t = 0 ∧ errand = .get source ∨ t = 1 ∧ errand = .get source := by
      simpa [moves] using h
    rcases hcase with ⟨-, rfl⟩ | ⟨-, rfl⟩
    · rfl
    · rfl
  have hlast : w.Lasts 0 := ⟨by decide +kernel, by decide +kernel⟩
  have hlasts : ∀ j < (c.after w.out moves).state.readings, w.Lasts (w.out.clock j) :=
    fun _ _ => hlast
  have hasked : c.askers w.out moves = [0, 1] := by decide +kernel
  have hs : c.Sound := Crowd.sound_initial 2 {}
  obtain ⟨⟨hrequests, -⟩, -, -, hreturned, -⟩ :=
    one_fetch_serves_all hm hs hquiet (fun _ => rfl) rfl htogether hlasts
  refine ⟨by decide +kernel, hasked, ?_, hreturned⟩
  rw [hrequests, hasked]
  rfl

/-- **A request with keys does not serve everybody** in two cases.  Two callers get the keys of one
source, of which nothing is stored; each request is answered with keys, and there is room for one
entry.  If the time to live has no end, both ask and both crash.  If the keys of another tenant were
stored at the very moment at which those that were asked for are stored, and it is the latter that
make way, then both ask, although the time to live is not over. -/
theorem asked_twice :
    let place : Url := ⟨"https", some ⟨"", none, some (.domain "my.auth.com"), none⟩,
      .segments ["token_keys"], none, none⟩
    let source : KeySource := ⟨place, none⟩
    let out : Surroundings :=
      ⟨fun _ => 0, 0, fun _ _ => .body (Text.Utf8.bytes "\x7b\x22keys\x22:[]\x7d")⟩
    let moves : List (Crowd.Move 2) := [.start 0 (.get source), .start 1 (.get source)] ++
      List.replicate 18 (.go 0) ++ List.replicate 18 (.go 1)
    let endless : Crowd 2 := { state := { keys := { ttl := Duration.longest } } }
    let full : KeyCache := KeyCache.configure { order := [1, 0], maxEntries := 1 } 0
      (.preloaded ⟨place, some "tenant"⟩ .empty)
    let crowded : Crowd 2 := { state := { keys := full } }
    (keysIn (out.answer 0 source)).isOk = true ∧
      (endless.askers out moves = [0, 1] ∧ ∀ t, ((endless.after out moves).place t).isFree = true ∧
        ((endless.after out moves).place t).result? = some (.error .crash)) ∧
      crowded.state.keys.live? source 0 = none ∧ crowded.askers out moves = [0, 1] ∧
        ∀ t, ((crowded.after out moves).place t).isFree = true ∧
          ((crowded.after out moves).place t).result? =
            some (.ok (⟨t.val + 1, .empty⟩, .network)) := by
  intro place source out moves endless full crowded
  refine ⟨by decide +kernel, ⟨by decide +kernel, ?_⟩, ?_⟩
  all_goals decide +kernel

end Gathering
end Retrieval
end TokenTrust

/-
# What the check of a signature can do

The ways in which the check ends, in the manner of `Proofs.Retrieval`: where the keys come from
(`Sourcing`), which set the key is looked up in (`Finding`), and the check as a whole
(`Checking`).

A key is looked up in one set at a time, and a set that does not hold it is exchanged once at
most, for one that was fetched after it.  What is decided in the end is a function of that set and
of the token (`judge`).
-/
import TokenTrust.Check.Validator
import TokenTrust.Proofs.Cache
import TokenTrust.Proofs.Retrieval
import TokenTrust.Check.Signature

namespace TokenTrust
namespace SignatureCheck

open TokenTrust.Action TokenTrust.Retrieval

variable {out : Surroundings} {c : SignatureCheck} {t : Token} {s s' : State}

/-! ## 1. Where the keys come from -/

/-- The source of keys that a discovery document names for a token of IAS. -/
def sourceIn (c : SignatureCheck) (t : Token) (d : Discovery) : Except Failure KeySource :=
  ((c.discoveredUrl d).map fun url => ⟨url, t.zoneId?⟩).mapError .error

/-- How looking for the source of the keys ends. -/
inductive Sourcing (out : Surroundings) (c : SignatureCheck) (t : Token) (s : State) :
    Except Failure KeySource → State → Prop
  | xsuaa (hc : c.service = .xsuaa) : Sourcing out c t s ((c.xsuaaSource t).mapError .error) s
  | ias {r : Except Failure Discovery} {s' : State} (hc : c.service = .ias)
    (hd : (getDiscovery c.discoveryUrl).run out s = (r, s')) :
    Sourcing out c t s (r.bind (c.sourceIn t)) s'

/-- **Only IAS asks where its keys are.** -/
theorem sourcing_of_run {r : Except Failure KeySource}
    (h : (c.source t).run out s = (r, s')) : Sourcing out c t s r s' := by
  cases hc : c.service with
  | xsuaa =>
    simp only [source, hc, run_ofExcept] at h
    cases h
    exact .xsuaa hc
  | ias =>
    simp only [source, hc, iasSource, run_bind] at h
    cases hd : (getDiscovery c.discoveryUrl).run out s with
    | mk q s'' =>
      rw [hd] at h
      cases q with
      | error f => cases h; exact .ias hc hd
      | ok d =>
        simp only [run_ofExcept] at h
        have hr : (.ok d : Except Failure Discovery).bind (c.sourceIn t) = r ∧ s'' = s' := by
          cases hu : c.discoveredUrl d with
          | error e =>
            simp only [hu, mapError_error] at h
            cases h
            simp [Except.bind, sourceIn, hu, Except.map]
          | ok url =>
            simp only [hu, mapError_ok, run_pure] at h
            cases h
            simp [Except.bind, sourceIn, hu, Except.map]
        obtain ⟨rfl, rfl⟩ := hr
        exact .ias hc hd

/-! ## 2. The set in which the key is looked up -/

/-- What a refresh amounts to that was made because a set did not hold the key. -/
def exchanged (held : HeldKeys) (e : Error) (r : Except Failure HeldKeys) :
    Except Failure KeySet :=
  r.bind fun refreshed =>
    if refreshed.serial = held.serial then .error (.error e) else .ok refreshed.keys

/-- How looking for the set ends. -/
inductive Finding (out : Surroundings) (source : KeySource) (alg : Algorithm)
    (id : Option String) (s : State) : Except Failure KeySet → State → Prop
  | ungot {f : Failure} {s' : State} (hg : (getKeys source).run out s = (.error f, s')) :
    Finding out source alg id s (.error f) s'
  | found {held : HeldKeys} {origin : Origin} {k : Key} {s' : State}
    (hg : (getKeys source).run out s = (.ok (held, origin), s'))
    (hk : held.keys.select alg id = .ok k) : Finding out source alg id s (.ok held.keys) s'
  | missing {held : HeldKeys} {origin : Origin} {e : Error} {s' : State}
    (hg : (getKeys source).run out s = (.ok (held, origin), s'))
    (hk : held.keys.select alg id = .error e) (ho : origin = .network ∨ id = none) :
    Finding out source alg id s (.error (.error e)) s'
  | refreshed {held : HeldKeys} {e : Error} {i : String} {r : Except Failure HeldKeys}
    {s₁ s' : State} (hg : (getKeys source).run out s = (.ok (held, .cache), s₁))
    (hk : held.keys.select alg id = .error e) (hi : id = some i)
    (hr : (refreshKeys source).run out (s₁.logging [unknownLine source i]) = (r, s')) :
    Finding out source alg id s (exchanged held e r) s'

/-- **A set is exchanged once at most**, and only if it was stored before and the token names the
key it wants. -/
theorem finding_of_run {source : KeySource} {alg : Algorithm} {id : Option String}
    {r : Except Failure KeySet} (h : (keysFor source alg id).run out s = (r, s')) :
    Finding out source alg id s r s' := by
  rw [keysFor, run_bind] at h
  cases hg : (getKeys source).run out s with
  | mk q s₁ =>
    rw [hg] at h
    cases q with
    | error f => cases h; exact .ungot hg
    | ok got =>
      obtain ⟨held, origin⟩ := got
      cases hk : held.keys.select alg id with
      | ok k =>
        simp only [hk, run_pure] at h
        cases h
        exact .found hg hk
      | error e =>
        cases origin with
        | network =>
          simp only [hk, run_fail] at h
          cases h
          exact .missing hg hk (Or.inl rfl)
        | cache =>
          cases id with
          | none =>
            simp only [hk, run_fail] at h
            cases h
            exact .missing hg hk (Or.inr rfl)
          | some i =>
            simp only [hk, run_bind, run_log] at h
            cases hr : (refreshKeys source).run out (s₁.logging [unknownLine source i]) with
            | mk q s₂ =>
              have hx := Finding.refreshed hg hk rfl hr
              rw [hr] at h
              cases q with
              | error f => cases h; exact hx
              | ok refreshed =>
                simp only [exchanged, Except.bind] at hx
                by_cases hs : refreshed.serial = held.serial
                · simp only [hs, if_true, run_fail] at h hx
                  cases h
                  exact hx
                · simp only [hs, if_false, run_pure] at h hx
                  cases h
                  exact hx

theorem finding_run (out : Surroundings) (source : KeySource) (alg : Algorithm)
    (id : Option String) (s : State) :
    Finding out source alg id s ((keysFor source alg id).run out s).1
      ((keysFor source alg id).run out s).2 :=
  finding_of_run rfl

/-! ## 3. The check -/

/-- What is decided about a token with a set of keys. -/
def judge (keys : KeySet) (alg : Algorithm) (t : Token) : Except Error Unit :=
  (keys.select alg t.keyId?).bind fun k =>
    k.verify alg t.signingInput t.signature

/-- How the check ends. -/
inductive Checking (out : Surroundings) (c : SignatureCheck) (t : Token) (s : State) :
    Except Failure Unit → State → Prop
  | refused {e : Error} (hp : precheck t = .error e) : Checking out c t s (.error (.error e)) s
  | sourceless {alg : Algorithm} {f : Failure} {s' : State} (hp : precheck t = .ok alg)
    (hs : (c.source t).run out s = (.error f, s')) : Checking out c t s (.error f) s'
  | keyless {alg : Algorithm} {source : KeySource} {f : Failure} {s₁ s' : State}
    (hp : precheck t = .ok alg) (hs : (c.source t).run out s = (.ok source, s₁))
    (hk : (keysFor source alg t.keyId?).run out s₁ = (.error f, s')) :
    Checking out c t s (.error f) s'
  | judged {alg : Algorithm} {source : KeySource} {keys : KeySet} {s₁ s' : State}
    (hp : precheck t = .ok alg) (hs : (c.source t).run out s = (.ok source, s₁))
    (hk : (keysFor source alg t.keyId?).run out s₁ = (.ok keys, s')) :
    Checking out c t s ((judge keys alg t).mapError .error) s'

/-- The last thing that a check does is to judge. -/
theorem run_judge (keys : KeySet) (alg : Algorithm) (t : Token) :
    (do
      let key ← ofExcept (keys.select alg t.keyId?)
      ofExcept (key.verify alg t.signingInput t.signature) : Action Unit).run
        out s = ((judge keys alg t).mapError .error, s) := by
  rw [run_bind, run_ofExcept, judge]
  cases keys.select alg t.keyId? with
  | error e => rfl
  | ok k => exact run_ofExcept out s _

/-- What a check does once it knows the source of the keys. -/
theorem run_check {alg : Algorithm} {source : KeySource} {s₁ : State}
    (hp : precheck t = .ok alg) (hs : (c.source t).run out s = (.ok source, s₁)) :
    (c.check t).run out s = match (keysFor source alg t.keyId?).run out s₁ with
      | (.ok keys, s') => ((judge keys alg t).mapError .error, s')
      | (.error f, s') => (.error f, s') := by
  rw [check, run_bind, run_ofExcept, hp]
  simp only [mapError_ok, run_bind, hs]
  cases (keysFor source alg t.keyId?).run out s₁ with
  | mk q s' =>
    cases q with
    | error f => rfl
    | ok keys => exact run_judge keys alg t

/-- **The check does one thing after another**, and each only if the one before it succeeded. -/
theorem checking_of_run {r : Except Failure Unit} (h : (c.check t).run out s = (r, s')) :
    Checking out c t s r s' := by
  cases hp : precheck t with
  | error e =>
    rw [check, run_bind, run_ofExcept, hp] at h
    cases h
    exact .refused hp
  | ok alg =>
    cases hs : (c.source t).run out s with
    | mk q s₁ =>
      cases q with
      | error f =>
        rw [check, run_bind, run_ofExcept, hp] at h
        simp only [mapError_ok, run_bind, hs] at h
        cases h
        exact .sourceless hp hs
      | ok source =>
        rw [run_check hp hs] at h
        cases hk : (keysFor source alg t.keyId?).run out s₁ with
        | mk q s₂ =>
          rw [hk] at h
          cases q with
          | error f => cases h; exact .keyless hp hs hk
          | ok keys => cases h; exact .judged hp hs hk

theorem checking_run (out : Surroundings) (c : SignatureCheck) (t : Token) (s : State) :
    Checking out c t s ((c.check t).run out s).1 ((c.check t).run out s).2 :=
  checking_of_run rfl

/-! ## 4. The verdict -/

/-- The verdict that the end of a check amounts to. -/
def verdictOf : Except Failure Unit → Except Failure Verdict
  | .ok () => .ok .valid
  | .error (.error e) => .ok (.ofError e)
  | .error .crash => .error .crash

theorem run_validator :
    (Validator.ofAction c.check t).run out s =
      (verdictOf ((c.check t).run out s).1, ((c.check t).run out s).2) := by
  simp only [Validator.ofAction, run_bind, run_attempt, run_pure]
  cases (c.check t).run out s with
  | mk r s' =>
    cases r with
    | ok u => rfl
    | error f =>
      cases f with
      | error e => rfl
      | crash => rfl

theorem verdictOf_eq_valid_iff {r : Except Failure Unit} :
    verdictOf r = .ok .valid ↔ r = .ok () := by
  cases r with
  | ok u => simp [verdictOf]
  | error f =>
    cases f with
    | error e => simp [verdictOf, Verdict.ofError]
    | crash => simp [verdictOf]

/-! ## 5. What every check keeps -/

section Kept

variable {mayAsk : KeySource → Prop} {R : State → State → Prop}

theorem kept_sourcing {r : Except Failure KeySource} (k : Kept out mayAsk R)
    (hd : c.service = .ias → mayAsk ⟨c.discoveryUrl, none⟩) (h : Sourcing out c t s r s') :
    R s s' := by
  cases h with
  | xsuaa => exact k.refl s
  | ias hc h => exact k.discovering (hd hc) (discovering_of_run h)

theorem kept_finding {source : KeySource} {alg : Algorithm} {id : Option String}
    {r : Except Failure KeySet} (k : Kept out mayAsk R) (hm : mayAsk source)
    (h : Finding out source alg id s r s') : R s s' := by
  cases h with
  | ungot hg => exact k.getting hm (getting_of_run hg)
  | found hg => exact k.getting hm (getting_of_run hg)
  | missing hg => exact k.getting hm (getting_of_run hg)
  | refreshed hg _ _ hr =>
    exact k.trans (k.getting hm (getting_of_run hg))
      (k.trans (k.logging _ _) (k.refreshing hm (refreshing_of_run hr)))

/-- **A check keeps what retrievals keep**, if the places that it asks may be asked: the discovery
document, and the source of the keys that it comes to. -/
theorem kept_checking {r : Except Failure Unit} (k : Kept out mayAsk R)
    (hd : c.service = .ias → mayAsk ⟨c.discoveryUrl, none⟩)
    (hm : ∀ source s₁, (c.source t).run out s = (.ok source, s₁) → mayAsk source)
    (h : Checking out c t s r s') : R s s' := by
  cases h with
  | refused => exact k.refl s
  | sourceless _ hs => exact kept_sourcing k hd (sourcing_of_run hs)
  | keyless _ hs hk =>
    exact k.trans (kept_sourcing k hd (sourcing_of_run hs))
      (kept_finding k (hm _ _ hs) (finding_of_run hk))
  | judged _ hs hk =>
    exact k.trans (kept_sourcing k hd (sourcing_of_run hs))
      (kept_finding k (hm _ _ hs) (finding_of_run hk))

end Kept

end SignatureCheck
end TokenTrust

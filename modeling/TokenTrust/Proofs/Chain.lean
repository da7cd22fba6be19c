/-
# What the usual chain decides

A chain is built from options of many kinds, and what comes out of it has to be the same five things
in the same order whatever they are: the dates of the token, its audience, its issuer, its
signature, and what was added.  These are the stages of the chain (`ChainOptions.stages`), and
`ChainOptions.Says` says what each of them finds, from the options alone.  A chain that was built
goes through its stages up to the first one that does not find the token valid, and has nothing
else to say than that one has (`decides_of_build`).

The stages before the signature do not ask and do not store, and neither does the signature before
it knows where the keys are.  So a token that is refused up to there costs no request
(`untouched_of_refused_early`).
-/
import TokenTrust.Proofs.Acceptance
import TokenTrust.Proofs.Confinement
import TokenTrust.Proofs.Nesting

namespace TokenTrust

open TokenTrust.Action TokenTrust.Retrieval

/-! ## 1. Stages -/

/-- What a chain checks. -/
inductive Stage where
  | dates
  | audience
  | issuer
  | signature
  /-- A check that was added. -/
  | added (v : Validator)

namespace ChainOptions

/-- The stages of a chain, in their order. -/
def stages (o : ChainOptions) : List Stage :=
  [.dates, .audience, .issuer, .signature] ++ o.added.map .added

/-- **What a stage finds** when it comes to a token in some state, and the state that it leaves. -/
inductive Says (o : ChainOptions) (out : Surroundings) (t : Token) (s : State) :
    Stage → Except Failure Verdict → State → Prop
  | dates : Says o out t s .dates
      (.ok (.ofCheck (Timestamp.check (o.skew.getD Timestamp.defaultSkew) out.today t))) s
  /-- The check that takes the place of the one for the audience. -/
  | otherAudience {v : Validator} {r : Except Failure Verdict} {s' : State}
    (hv : o.audience = some v) (hrun : (v t).run out s = (r, s')) : Says o out t s .audience r s'
  | xsuaaAudience {identities : List Identity} (hv : o.audience = none)
    (hs : o.config.service = .xsuaa) (hids : o.identities = .ok identities) :
    Says o out t s .audience (.ok (.ofCheck (Identity.check identities t))) s
  | iasAudience (hv : o.audience = none) (hs : o.config.service = .ias) :
    Says o out t s .audience (.ok (.ofCheck (ClientIds.check o.clientIds t))) s
  | issuer {domain : String} (hs : o.config.service = .xsuaa)
    (hd : o.config.domain = some domain) :
    Says o out t s .issuer (.ok (.ofCheck (Issuer.check domain t))) s
  /-- With IAS every issuer will do. -/
  | anyIssuer (hs : o.config.service = .ias) : Says o out t s .issuer (.ok .valid) s
  | signature {c : SignatureCheck} {r : Except Failure Unit} {s' : State}
    (hc : o.signatureCheck = .ok c) (hrun : (c.check t).run out s = (r, s')) :
    Says o out t s .signature (SignatureCheck.verdictOf r) s'
  | added {v : Validator} {r : Except Failure Verdict} {s' : State}
    (hrun : (v t).run out s = (r, s')) : Says o out t s (.added v) r s'

/-- **Some stages accept a token**, each in the state that the one before it has left. -/
inductive Accept (o : ChainOptions) (out : Surroundings) (t : Token) :
    List Stage → State → State → Prop
  | nil {s : State} : Accept o out t [] s s
  | cons {stage : Stage} {stages : List Stage} {s s₁ s' : State}
    (h : o.Says out t s stage (.ok .valid) s₁) (hs : Accept o out t stages s₁ s') :
    Accept o out t (stage :: stages) s s'

variable {o : ChainOptions} {out : Surroundings} {t : Token} {s s' s₁ s₂ : State}
  {r : Except Failure Verdict} {chain : Chain} {stage : Stage} {before rest : List Stage}

/-! ## 2. From stages to validators -/

/-- **Where a stage is in a chain**: some validator of the chain finds what the stage finds, or
there is none, and the stage accepts everything. -/
def Links (o : ChainOptions) (out : Surroundings) (t : Token) (link : Stage → Option Validator) :
    Prop :=
  ∀ stage s r s', o.Says out t s stage r s' ↔
    match link stage with
    | some v => (v t).run out s = (r, s')
    | none => r = .ok .valid ∧ s' = s

theorem says_audience_iff {audience : Validator} (ha : o.audienceCheck = .ok audience) :
    o.Says out t s .audience r s' ↔ (audience t).run out s = (r, s') := by
  rw [audienceCheck] at ha
  cases hv : o.audience with
  | some v =>
    simp only [hv, Except.ok.injEq] at ha
    subst ha
    constructor
    · intro h
      cases h with
      | otherAudience hv' hrun =>
        obtain rfl := Option.some.inj (hv.symm.trans hv')
        exact hrun
      | xsuaaAudience hv' => exact nomatch hv.symm.trans hv'
      | iasAudience hv' => exact nomatch hv.symm.trans hv'
    · exact .otherAudience hv
  | none =>
    simp only [hv, defaultAudience] at ha
    cases hs : o.config.service with
    | ias =>
      simp only [hs, Except.ok.injEq] at ha
      subst ha
      constructor
      · intro h
        cases h with
        | otherAudience hv' => exact nomatch hv.symm.trans hv'
        | xsuaaAudience _ hs' => exact nomatch hs.symm.trans hs'
        | iasAudience => rfl
      · rintro ⟨⟩
        exact .iasAudience hv hs
    | xsuaa =>
      simp only [hs, bind_eq_ok_iff] at ha
      obtain ⟨identities, hids, hend⟩ := ha
      obtain rfl := Except.ok.inj hend
      constructor
      · intro h
        cases h with
        | otherAudience hv' => exact nomatch hv.symm.trans hv'
        | xsuaaAudience _ _ hids' =>
          obtain rfl := Except.ok.inj (hids.symm.trans hids')
          rfl
        | iasAudience _ hs' => exact nomatch hs.symm.trans hs'
      · rintro ⟨⟩
        exact .xsuaaAudience hv hs hids

theorem says_issuer_iff {issuer : List Validator} (hi : o.issuerChecks = .ok issuer)
    (out : Surroundings) (t : Token) : ∃ link : Option Validator, issuer = link.toList ∧
      ∀ s r s', (o.Says out t s .issuer r s' ↔ match link with
        | some v => (v t).run out s = (r, s')
        | none => r = .ok .valid ∧ s' = s) := by
  rw [issuerChecks] at hi
  cases hs : o.config.service with
  | ias =>
    simp only [hs, Except.ok.injEq] at hi
    subst hi
    refine ⟨none, rfl, fun s r s' => ⟨fun h => ?_, ?_⟩⟩
    · cases h with
      | issuer hs' => exact nomatch hs.symm.trans hs'
      | anyIssuer => exact ⟨rfl, rfl⟩
    · rintro ⟨rfl, rfl⟩
      exact .anyIssuer hs
  | xsuaa =>
    cases hd : o.config.domain with
    | none => simp [hs, hd] at hi
    | some domain =>
      simp only [hs, hd, Except.ok.injEq] at hi
      subst hi
      refine ⟨some _, rfl, fun s r s' => ⟨fun h => ?_, ?_⟩⟩
      · cases h with
        | issuer _ hd' =>
          obtain rfl := Option.some.inj (hd.symm.trans hd')
          rfl
        | anyIssuer hs' => exact nomatch hs.symm.trans hs'
      · rintro ⟨⟩
        exact .issuer hs hd

theorem says_signature_iff {c : SignatureCheck} (hc : o.signatureCheck = .ok c) :
    o.Says out t s .signature r s' ↔ (Validator.ofAction c.check t).run out s = (r, s') := by
  rw [SignatureCheck.run_validator]
  constructor
  · intro h
    cases h with
    | signature hc' hrun =>
      obtain rfl := Except.ok.inj (hc.symm.trans hc')
      rw [hrun]
  · rintro ⟨⟩
    exact .signature hc rfl

/-- **A chain that is built has its stages**, in their order, and nothing else. -/
theorem exists_links_of_build (h : o.build = .ok chain) (out : Surroundings) (t : Token) :
    ∃ link, o.Links out t link ∧ chain.validators = o.stages.filterMap link := by
  simp only [build, bind_eq_ok_iff] at h
  obtain ⟨audience, ha, issuer, hi, c, hc, hend⟩ := h
  obtain rfl := Except.ok.inj hend
  obtain ⟨issuer?, rfl, hissuer⟩ := says_issuer_iff hi out t
  let dates : Validator :=
    Validator.ofDated (Timestamp.check (o.skew.getD Timestamp.defaultSkew))
  let link : Stage → Option Validator
    | .dates => some dates
    | .audience => some audience
    | .issuer => issuer?
    | .signature => some (Validator.ofAction c.check)
    | .added v => some v
  refine ⟨link, fun stage s r s' => ?_, ?_⟩
  · cases stage with
    | dates =>
      constructor
      · rintro ⟨⟩
        rfl
      · rintro ⟨⟩
        exact .dates
    | audience => exact says_audience_iff ha
    | issuer => exact hissuer s r s'
    | signature => exact says_signature_iff hc
    | added v =>
      constructor
      · intro h
        cases h with
        | added hrun => exact hrun
      · exact .added
  · have hadded : (o.added.map Stage.added).filterMap link = o.added := by
      rw [List.filterMap_map]
      exact List.filterMap_some
    rw [stages, List.filterMap_append, hadded]
    cases issuer? <;> rfl

/-! ## 3. Going through the stages -/

section Running

variable {link : Stage → Option Validator}

/-- Stages that accept a token lead to the stages behind them. -/
theorem Accept.run_eq (hl : o.Links out t link) (h : o.Accept out t before s s₁)
    (rest : List Stage) (index : Nat) :
    ∃ index', (Validator.allFrom index ((before ++ rest).filterMap link) t).run out s =
      (Validator.allFrom index' (rest.filterMap link) t).run out s₁ := by
  induction h generalizing index with
  | nil => exact ⟨index, rfl⟩
  | @cons stage stages s s₁ s' hsaid hrest ih =>
    have hstage := (hl stage s _ s₁).mp hsaid
    rw [List.cons_append]
    cases hv : link stage with
    | none =>
      simp only [hv] at hstage
      rw [List.filterMap_cons_none hv, ← hstage.2]
      exact ih index
    | some v =>
      simp only [hv] at hstage
      rw [List.filterMap_cons_some hv, Validator.run_allFrom_cons_of_valid hstage]
      exact ih (index + 1)

/-- A stage that does not accept a token has the last word.  A refusal is logged. -/
theorem Says.run_eq (hl : o.Links out t link) (h : o.Says out t s stage r s₁)
    (hr : r ≠ .ok .valid) (rest : List Stage) (index : Nat) :
    ∃ lines, (Validator.allFrom index ((stage :: rest).filterMap link) t).run out s =
      (r, s₁.logging lines) := by
  have hstage := (hl stage s r s₁).mp h
  cases hv : link stage with
  | none =>
    simp only [hv] at hstage
    exact absurd hstage.1 hr
  | some v =>
    simp only [hv] at hstage
    rw [List.filterMap_cons_some hv]
    exact Validator.run_allFrom_cons_of_ne hstage hr _ index

/-- Every stage finds something. -/
theorem exists_says (hl : o.Links out t link) (stage : Stage) (s : State) :
    ∃ r s', o.Says out t s stage r s' := by
  cases hv : link stage with
  | none =>
    refine ⟨.ok .valid, s, (hl stage s _ s).mpr ?_⟩
    simp only [hv, and_self]
  | some v =>
    refine ⟨((v t).run out s).1, ((v t).run out s).2, (hl stage s _ _).mpr ?_⟩
    simp only [hv]

/-- Some stages all accept a token, or there is a first one that does not. -/
theorem accept_or_stop (hl : o.Links out t link) (stages : List Stage) (s : State) :
    (∃ s', o.Accept out t stages s s') ∨
      ∃ before stage rest s₁ r s₂, stages = before ++ stage :: rest ∧
        o.Accept out t before s s₁ ∧ o.Says out t s₁ stage r s₂ ∧ r ≠ .ok .valid := by
  induction stages generalizing s with
  | nil => exact Or.inl ⟨s, .nil⟩
  | cons stage stages ih =>
    obtain ⟨r, s₁, hsaid⟩ := exists_says hl stage s
    by_cases hr : r = .ok .valid
    · subst hr
      rcases ih s₁ with ⟨s', hs⟩ | ⟨before, stage', rest, s₂, r, s₃, rfl, hb, hrest⟩
      · exact Or.inl ⟨s', .cons hsaid hs⟩
      · exact Or.inr ⟨stage :: before, stage', rest, s₂, r, s₃, rfl, .cons hsaid hb, hrest⟩
    · exact Or.inr ⟨[], stage, stages, s, r, s₁, rfl, .nil, hsaid, hr⟩

end Running

/-- A chain that was built and comes to the end of its stages accepts the token. -/
theorem run_validator_of_accept (h : o.build = .ok chain) (ha : o.Accept out t o.stages s s') :
    (chain.validator t).run out s = (.ok .valid, s') := by
  obtain ⟨link, hl, hchain⟩ := exists_links_of_build h out t
  obtain ⟨index, hrun⟩ := ha.run_eq hl [] 0
  rw [Chain.validator, Validator.all, hchain]
  rw [List.append_nil] at hrun
  exact hrun

/-- A chain that was built says what the first stage says that does not accept the token. -/
theorem run_validator_of_stop (h : o.build = .ok chain)
    (hstages : o.stages = before ++ stage :: rest) (ha : o.Accept out t before s s₁)
    (hsaid : o.Says out t s₁ stage r s₂) (hr : r ≠ .ok .valid) :
    ∃ lines, (chain.validator t).run out s = (r, s₂.logging lines) := by
  obtain ⟨link, hl, hchain⟩ := exists_links_of_build h out t
  obtain ⟨index, hrun⟩ := ha.run_eq hl (stage :: rest) 0
  obtain ⟨lines, hstop⟩ := hsaid.run_eq hl hr rest index
  refine ⟨lines, ?_⟩
  rw [Chain.validator, Validator.all, hchain, hstages]
  exact hrun.trans hstop

/-! ## 4. What a chain decides -/

/-- **A chain decides as its stages do.**  The chain that is built from some options finds a text
valid exactly if the text is a token and every stage accepts it: the dates, the audience, with XSUAA
the issuer, the signature, and everything that was added, in this order and each in the state that
the one before it has left.  It has any other result exactly if the text is no token, and the
result says why, or if it is the result of the first stage that does not accept the token: the
description of a refusal, or a crash. -/
theorem decides_of_build (h : o.build = .ok chain) (out : Surroundings) (s : State)
    (text : String) :
    (((chain.validateText text).run out s).1 = .ok .valid ↔
      ∃ t s', Token.parse text = .ok t ∧ o.Accept out t o.stages s s') ∧
    ∀ r, r ≠ .ok .valid → (((chain.validateText text).run out s).1 = r ↔
      (∃ e, Token.parse text = .error e ∧ r = .ok (.invalid e.message)) ∨
      ∃ t before stage rest s₁ s₂, Token.parse text = .ok t ∧
        o.stages = before ++ stage :: rest ∧ o.Accept out t before s s₁ ∧
        o.Says out t s₁ stage r s₂) := by
  cases hp : Token.parse text with
  | error e =>
    have hrun : ((chain.validateText text).run out s).1 = .ok (.invalid e.message) := by
      rw [Chain.validateText, hp]
      rfl
    rw [hrun]
    refine ⟨⟨nofun, fun ⟨_, _, ht, _⟩ => nomatch ht⟩, fun r _ => ⟨?_, ?_⟩⟩
    · rintro rfl
      exact Or.inl ⟨e, rfl, rfl⟩
    · rintro (⟨e', he, rfl⟩ | ⟨_, _, _, _, _, _, ht, _⟩)
      · rw [Except.error.inj he]
      · exact nomatch ht
  | ok t =>
    have hrun : (chain.validateText text).run out s = (chain.validator t).run out s := by
      rw [Chain.validateText, hp]
    rw [hrun]
    obtain ⟨link, hl, -⟩ := exists_links_of_build h out t
    constructor
    · constructor
      · intro hvalid
        rcases accept_or_stop hl o.stages s with
          ⟨s', ha⟩ | ⟨before, stage, rest, s₁, r, s₂, hstages, ha, hsaid, hr⟩
        · exact ⟨t, s', rfl, ha⟩
        · obtain ⟨lines, hstop⟩ := run_validator_of_stop h hstages ha hsaid hr
          rw [hstop] at hvalid
          exact absurd hvalid hr
      · rintro ⟨t', s', ht, ha⟩
        obtain rfl := Except.ok.inj ht
        rw [run_validator_of_accept h ha]
    · intro r hr
      constructor
      · rintro rfl
        rcases accept_or_stop hl o.stages s with
          ⟨s', ha⟩ | ⟨before, stage, rest, s₁, r, s₂, hstages, ha, hsaid, hr'⟩
        · rw [run_validator_of_accept h ha] at hr
          exact absurd rfl hr
        · obtain ⟨lines, hstop⟩ := run_validator_of_stop h hstages ha hsaid hr'
          rw [hstop]
          exact Or.inr ⟨t, before, stage, rest, s₁, s₂, rfl, hstages, ha, hsaid⟩
      · rintro (⟨e, he, -⟩ | ⟨t', before, stage, rest, s₁, s₂, ht, hstages, ha, hsaid⟩)
        · exact nomatch he
        · obtain rfl := Except.ok.inj ht
          obtain ⟨lines, hstop⟩ := run_validator_of_stop h hstages ha hsaid hr
          rw [hstop]

/-- A token that is in time and meant for the application, but does not say who issued it.  The
chain also accepts tokens of a second instance, and a check was added that is not come to. -/
theorem decides_of_build_no_issuer :
    let place : Url := ⟨"https", some ⟨"", none, some (.domain "my.auth.com"), none⟩,
      .segments [""], none, none⟩
    let config : Config := ⟨.xsuaa, "client", none, place, some "auth.com", some "app", []⟩
    let other : Config := { config with clientId := "other" }
    let crashing : Validator := fun _ _ s => (.error .crash, s)
    let o : ChainOptions := { config := config, other := some other, added := [crashing] }
    let out : Surroundings := ⟨fun n => n, 1700000000, fun _ _ => .crash⟩
    let text := "eyJhbGciOiJFUzI1NiJ9." ++ "eyJleHAiOjQxMDI0NDQ4MDAsImNpZCI6ImNsaWVudCJ9.AAE"
    ∃ chain, o.build = .ok chain ∧
      ((chain.validateText text).run out {}).1 = .ok (.ofError Issuer.missing) := by
  intro place config other crashing o out text
  refine ⟨_, rfl, ?_⟩
  have hread : (Token.parse text).toOption.map (fun t => (
      Verdict.ofCheck (Timestamp.check (o.skew.getD Timestamp.defaultSkew) out.today t),
      Verdict.ofCheck (Identity.check [⟨"app", "client"⟩, ⟨"app", "other"⟩] t),
      Verdict.ofCheck (Issuer.check "auth.com" t))) =
      some (.valid, .valid, .ofError Issuer.missing) := by decide +kernel
  cases ht : Token.parse text with
  | error e => simp [ht, Except.toOption] at hread
  | ok t =>
    simp only [ht, Except.toOption, Option.map_some, Option.some.injEq, Prod.mk.injEq] at hread
    obtain ⟨hdates, haudience, hissuer⟩ := hread
    have h₁ : o.Says out t {} .dates (.ok .valid) {} := hdates ▸ .dates
    have hids : o.identities = .ok [⟨"app", "client"⟩, ⟨"app", "other"⟩] := rfl
    have h₂ : o.Says out t {} .audience (.ok .valid) {} :=
      haudience ▸ .xsuaaAudience rfl rfl hids
    have hdomain : o.config.domain = some "auth.com" := rfl
    have h₃ : o.Says out t {} .issuer (.ok (.ofError Issuer.missing)) {} :=
      hissuer ▸ .issuer rfl hdomain
    exact ((decides_of_build (o := o) rfl out {} text).2 _ (by simp [Verdict.ofError])).mpr
      (Or.inr ⟨t, [.dates, .audience], .issuer, _, {}, {}, ht, rfl, .cons h₁ (.cons h₂ .nil), h₃⟩)

/-! ## 5. Before anything is asked -/

end ChainOptions

/-- **Nothing was asked of the network between two states, and nothing was stored.** -/
structure State.Untouched (s s' : State) : Prop where
  keys : s'.keys = s.keys
  discovery : s'.discovery = s.discovery
  requests : s'.requests = s.requests

namespace State.Untouched

variable {s s₁ s₂ : State}

theorem refl (s : State) : s.Untouched s := ⟨rfl, rfl, rfl⟩

theorem trans (h : s.Untouched s₁) (h' : s₁.Untouched s₂) : s.Untouched s₂ :=
  ⟨h'.keys.trans h.keys, h'.discovery.trans h.discovery, h'.requests.trans h.requests⟩

theorem logging (s : State) (lines : List LogLine) : s.Untouched (s.logging lines) :=
  ⟨rfl, rfl, State.logging_requests s lines⟩

end State.Untouched

namespace SignatureCheck

variable {c : SignatureCheck} {out : Surroundings} {t : Token}

/-- A token without a known algorithm or without a signature is refused at once. -/
theorem run_check_of_precheck {e : Error} (h : precheck t = .error e) (s : State) :
    (c.check t).run out s = (.error (.error e), s) := by
  rw [check, run_bind, run_ofExcept, h]
  rfl

/-- With XSUAA, so is a token that names a place that is not trusted. -/
theorem run_check_of_untrusted {alg : Algorithm} {address : String} (hp : precheck t = .ok alg)
    (hs : c.service = .xsuaa) (hj : t.keySetUrl? = some address)
    (hu : trustedUrl? c.trustedDomains address = none) (s : State) :
    (c.check t).run out s = (.error (.error (untrusted c.trustedDomains address)), s) := by
  have hsource : c.xsuaaSource t = .error (untrusted c.trustedDomains address) := by
    rw [xsuaaSource, hj]
    simp only [hu]
  rw [check, run_bind, run_ofExcept, hp]
  simp only [mapError_ok, run_bind, source, hs, run_ofExcept, hsource, mapError_error]

end SignatureCheck

namespace ChainOptions

variable {o : ChainOptions} {out : Surroundings} {t : Token} {s s' s₁ s₂ : State}
  {r : Except Failure Verdict} {chain : Chain} {stage : Stage} {before rest : List Stage}

/-- The stages that look at the token alone. -/
def cheapStages : List Stage := [.dates, .audience, .issuer]

/-- **Why a text is refused before anything is asked.** -/
inductive RefusedEarly (o : ChainOptions) (out : Surroundings) (s : State) (text : String) : Prop
  | malformed {e : Error} (h : Token.parse text = .error e)
  /-- The dates, the audience or the issuer will not do. -/
  | cheap {t : Token} {stage : Stage} {r : Except Failure Verdict} {s' : State}
    (ht : Token.parse text = .ok t) (hstage : stage ∈ cheapStages)
    (h : o.Says out t s stage r s') (hr : r ≠ .ok .valid)
  /-- The header does not name one of the six algorithms. -/
  | algorithm {t : Token} (ht : Token.parse text = .ok t)
    (h : ∀ alg : Algorithm, t.header.get? "alg" ≠ some (.string alg.name))
  | unsigned {t : Token} (ht : Token.parse text = .ok t) (h : t.signature = [])
  /-- The header names a place of the keys that is not trusted. -/
  | untrusted {t : Token} {address : String} (ht : Token.parse text = .ok t)
    (hs : o.config.service = .xsuaa) (hj : t.header.get? "jku" = some (.string address))
    (hu : SignatureCheck.trustedUrl? o.trusted address = none)

/-- The audience check that takes the place of the usual one, if there is one, does not ask and
does not store. -/
def AudienceAsksNothing (o : ChainOptions) : Prop :=
  ∀ v, o.audience = some v →
    ∀ (out : Surroundings) (t : Token) (s : State), s.Untouched ((v t).run out s).2

theorem Says.untouched (hq : o.AudienceAsksNothing) (hstage : stage ∈ cheapStages)
    (h : o.Says out t s stage r s') : s.Untouched s' := by
  cases h with
  | otherAudience hv hrun =>
    have hleft := hq _ hv out t s
    rw [hrun] at hleft
    exact hleft
  | signature => simp [cheapStages] at hstage
  | added => simp [cheapStages] at hstage
  | _ => exact .refl s

theorem Accept.untouched (hq : o.AudienceAsksNothing) (hb : before ⊆ cheapStages)
    (h : o.Accept out t before s s') : s.Untouched s' := by
  induction h with
  | nil => exact .refl _
  | cons hsaid _ ih =>
    obtain ⟨hstage, hrest⟩ := List.cons_subset.mp hb
    exact (hsaid.untouched hq hstage).trans (ih hrest)

/-- The stages that look at the token alone all accept it, or nothing has been asked when the first
one does not. -/
theorem cheap_accept_or_stop (h : o.build = .ok chain) (hq : o.AudienceAsksNothing)
    (out : Surroundings) (t : Token) (s : State) :
    (∃ s₁, o.Accept out t cheapStages s s₁) ∨
      s.Untouched ((chain.validator t).run out s).2 := by
  obtain ⟨link, hl, -⟩ := exists_links_of_build h out t
  rcases accept_or_stop hl cheapStages s with
    haccept | ⟨before, stage, rest, s₁, r, s₂, hcheap, ha, hsaid, hr⟩
  · exact Or.inl haccept
  · have hb : before ⊆ cheapStages := hcheap ▸ List.subset_append_left _ _
    have hstage : stage ∈ cheapStages := hcheap ▸ List.mem_append_right _ List.mem_cons_self
    have hstages : o.stages =
        before ++ stage :: (rest ++ .signature :: o.added.map .added) := by
      have hall : o.stages = cheapStages ++ .signature :: o.added.map .added := rfl
      rw [hall, hcheap, List.append_assoc]
      rfl
    obtain ⟨lines, hrun⟩ := run_validator_of_stop h hstages ha hsaid hr
    rw [hrun]
    exact Or.inr (((ha.untouched hq hb).trans (hsaid.untouched hq hstage)).trans (.logging _ _))

/-- A stage finds one thing in one state. -/
theorem Says.unique (h : o.build = .ok chain) {r' : Except Failure Verdict}
    (hr : o.Says out t s stage r s₁) (hr' : o.Says out t s stage r' s₂) : r = r' := by
  obtain ⟨link, hl, -⟩ := exists_links_of_build h out t
  have h₁ := (hl stage s r s₁).mp hr
  have h₂ := (hl stage s r' s₂).mp hr'
  cases hv : link stage with
  | none =>
    simp only [hv] at h₁ h₂
    rw [h₁.1, h₂.1]
  | some v =>
    simp only [hv] at h₁ h₂
    exact congrArg Prod.fst (h₁.symm.trans h₂)

/-- The dates are no matter of the state. -/
theorem Says.eq_of_dates (h : o.Says out t s .dates r s') : s' = s := by
  cases h
  rfl

/-- Neither is the issuer. -/
theorem Says.issuer_anywhere (h : o.Says out t s .issuer r s') (s₁ : State) :
    o.Says out t s₁ .issuer r s₁ := by
  cases h with
  | issuer hs hd => exact .issuer hs hd
  | anyIssuer hs => exact .anyIssuer hs

/-- Where a stage that looks at the token alone does not accept it, not all of them do. -/
theorem Accept.eq_valid_of_says (h : o.build = .ok chain)
    (ha : o.Accept out t cheapStages s s₁) (hstage : stage ∈ cheapStages)
    (hsaid : o.Says out t s stage r s') : r = .ok .valid := by
  obtain _ | ⟨hdates, _ | ⟨haudience, _ | ⟨hissuer, _⟩⟩⟩ := ha
  simp only [cheapStages, List.mem_cons, List.not_mem_nil, or_false] at hstage
  rcases hstage with rfl | rfl | rfl
  · exact hsaid.unique h hdates
  · rw [hdates.eq_of_dates] at haudience
    exact hsaid.unique h haudience
  · exact (hsaid.issuer_anywhere _).unique h hissuer

/-- **What the header or the signature is refused for** is seen before it is asked where the keys
are. -/
theorem exists_error_of_refusedEarly {c : SignatureCheck} {text : String}
    (hc : o.signatureCheck = .ok c) (ht : Token.parse text = .ok t) (h : o.build = .ok chain)
    (ha : o.Accept out t cheapStages s s₁) (hr : o.RefusedEarly out s text) :
    ∃ e, (c.check t).run out s₁ = (.error (.error e), s₁) := by
  have refused (hp : ∀ alg, SignatureCheck.precheck t ≠ .ok alg) :
      ∃ e, (c.check t).run out s₁ = (.error (.error e), s₁) := by
    cases he : SignatureCheck.precheck t with
    | ok alg => exact absurd he (hp alg)
    | error e => exact ⟨e, SignatureCheck.run_check_of_precheck he s₁⟩
  cases hr with
  | malformed hp => exact nomatch ht.symm.trans hp
  | cheap ht' hstage hsaid hne =>
    obtain rfl := Except.ok.inj (ht.symm.trans ht')
    exact absurd (ha.eq_valid_of_says h hstage hsaid) hne
  | algorithm ht' halg =>
    obtain rfl := Except.ok.inj (ht.symm.trans ht')
    exact refused fun alg hp => halg alg (SignatureCheck.precheck_eq_ok_iff.mp hp).1
  | unsigned ht' hnone =>
    obtain rfl := Except.ok.inj (ht.symm.trans ht')
    exact refused fun alg hp => (SignatureCheck.precheck_eq_ok_iff.mp hp).2 hnone
  | untrusted ht' hs hj hu =>
    obtain rfl := Except.ok.inj (ht.symm.trans ht')
    obtain ⟨hservice, -, -, htrusted⟩ := signatureCheck_eq_ok hc
    cases hp : SignatureCheck.precheck t with
    | error e => exact ⟨e, SignatureCheck.run_check_of_precheck hp s₁⟩
    | ok alg =>
      exact ⟨_, SignatureCheck.run_check_of_untrusted hp (hservice.trans hs)
        (Token.headerString?_eq_some_iff.mpr hj) (htrusted ▸ hu) s₁⟩

/-- **Cheap refusals cost nothing.**  A chain is built from some options, and the audience check
that takes the place of the usual one, if there is one, does not ask.  Then a text that is no
token, or whose dates, audience or issuer will not do, or whose header names no known algorithm or a
place of the keys that is not trusted, or that is not signed, is refused without a request, and
both caches stay as they are. -/
theorem untouched_of_refused_early (h : o.build = .ok chain) (hq : o.AudienceAsksNothing)
    {text : String} (hr : o.RefusedEarly out s text) :
    ((chain.validateText text).run out s).2.requests = s.requests ∧
      ((chain.validateText text).run out s).2.keys = s.keys ∧
      ((chain.validateText text).run out s).2.discovery = s.discovery := by
  have untouched : s.Untouched ((chain.validateText text).run out s).2 := by
    rw [Chain.validateText]
    cases hp : Token.parse text with
    | error e => exact .refl s
    | ok t =>
      rcases cheap_accept_or_stop h hq out t s with ⟨s₁, ha⟩ | hstopped
      · obtain ⟨c, hc⟩ : ∃ c, o.signatureCheck = .ok c := by
          simp only [build, bind_eq_ok_iff] at h
          obtain ⟨-, -, -, -, c, hc, -⟩ := h
          exact ⟨c, hc⟩
        obtain ⟨e, hrun⟩ := exists_error_of_refusedEarly hc hp h ha hr
        have hsaid : o.Says out t s₁ .signature (.ok (.ofError e)) s₁ := .signature hc hrun
        have hstages : o.stages = cheapStages ++ .signature :: o.added.map .added := rfl
        obtain ⟨lines, hstop⟩ := run_validator_of_stop h hstages ha hsaid
          (by simp [Verdict.ofError])
        rw [hstop]
        exact (ha.untouched hq (List.Subset.refl _)).trans (.logging _ _)
      · exact hstopped
  exact ⟨untouched.requests, untouched.keys, untouched.discovery⟩

/-- A token that names no algorithm but `none`, to a chain of IAS that has keys in its cache. -/
theorem untouched_of_refused_early_none :
    let place : Url := ⟨"https", some ⟨"", none, some (.domain "my.auth.com"), none⟩,
      .segments [""], none, none⟩
    let o : ChainOptions := { config := ⟨.ias, "client", none, place, none, none, []⟩ }
    let out : Surroundings := ⟨fun n => n, 1700000000, fun _ _ => .crash⟩
    let s : State := State.after out {} [.configure (.preloaded ⟨place, none⟩ .empty)]
    let text := "eyJhbGciOiJub25lIn0.eyJleHAiOjQxMDI0NDQ4MDAsImF1ZCI6ImNsaWVudCJ9.AAE"
    ∃ chain, o.build = .ok chain ∧ o.AudienceAsksNothing ∧ o.RefusedEarly out s text ∧
      ((chain.validateText text).run out s).2.requests = s.requests ∧
      ((chain.validateText text).run out s).2.keys = s.keys ∧
      ((chain.validateText text).run out s).2.discovery = s.discovery := by
  intro place o out s text
  have hq : o.AudienceAsksNothing := nofun
  have hread : (Token.parse text).toOption.map Token.algorithm? = some (some "none") := by
    decide +kernel
  have hr : o.RefusedEarly out s text := by
    cases ht : Token.parse text with
    | error e => exact .malformed ht
    | ok t =>
      simp only [ht, Except.toOption, Option.map_some, Option.some.injEq] at hread
      refine .algorithm ht fun alg halg => ?_
      have hname : some "none" = some alg.name :=
        hread.symm.trans (Token.headerString?_eq_some_iff.mpr halg)
      cases alg <;> exact absurd hname (by decide)
  exact ⟨_, rfl, hq, hr, untouched_of_refused_early rfl hq hr⟩

end ChainOptions
end TokenTrust

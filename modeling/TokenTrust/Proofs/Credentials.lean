/-
# Credentials in a configured URL do not show

A service URL may hold a user name and a password, and whatever is asked of the service is asked
with them.  They stay between the library and the service: two applications that are configured
alike but for user name and password give the same verdicts in the same words and log the same
lines, token for token.

The two are related by a `Disguise`.  With XSUAA it exchanges their addresses of the keys, with IAS
their places of the discovery document, and all else stands for itself (`Twins.disguise`).  From
there the proof goes along the check (`agree_check`) and along the chain (`agree_allFrom`), and
then along the run, step by step (`State.shown_eq`).

Two things are kept out.

* Sources are told apart by their whole URL, user name and password included.  A token that names
  the address of the keys exactly as one application has it shares the entry of that application's
  own keys, and in the other application it does not.  So tokens have to keep apart from both
  addresses (`KeepsApart`); any other way of writing them is allowed.
* Nothing is said of a step in which the discovery document in force gives no usable address of the
  keys (`Located`).  What is stored is alike after such a step too, so the steps that follow are
  compared again.
-/
import TokenTrust.Proofs.Confinement
import TokenTrust.Proofs.Disguise
import TokenTrust.Proofs.Places
import TokenTrust.Proofs.Transparency

namespace TokenTrust

open TokenTrust.Action TokenTrust.Retrieval

/-! ## 1. Places below a URL -/

/-- What is below a URL is so whatever the user name and the password are. -/
theorem Url.map_withoutUserinfo_below? (u : Url) (segments : List String) :
    (u.below? segments).map withoutUserinfo = u.withoutUserinfo.below? segments := by
  cases hp : u.path with
  | plain text => simp [below?, withoutUserinfo, hp]
  | segments ss => simp [below?, withoutUserinfo, hp]

/-- Where there is a place below one URL, there is one below another that differs in user name and
password, and so do the places. -/
theorem Config.exists_place {base base' u : Url} {segments : List String}
    (hb : base'.withoutUserinfo = base.withoutUserinfo) (h : place base segments = .ok u) :
    ∃ u', place base' segments = .ok u' ∧ u'.withoutUserinfo = u.withoutUserinfo := by
  have hbelow : (base'.below? segments).map Url.withoutUserinfo = some u.withoutUserinfo := by
    rw [Url.map_withoutUserinfo_below?, hb, ← Url.map_withoutUserinfo_below?,
      place_eq_ok_iff.mp h, Option.map_some]
  obtain ⟨u', hu', hsame⟩ := Option.map_eq_some_iff.mp hbelow
  exact ⟨u', place_eq_ok_iff.mpr hu', hsame⟩

/-! ## 2. Checks that differ in user names and passwords -/

namespace SignatureCheck

variable {c c' : SignatureCheck}

/-- **Two checks that differ in user names and passwords only.** -/
structure Twins (c c' : SignatureCheck) : Prop where
  service : c'.service = c.service
  trustedDomains : c'.trustedDomains = c.trustedDomains
  tokenKeysUrl : c'.tokenKeysUrl.withoutUserinfo = c.tokenKeysUrl.withoutUserinfo
  discoveryUrl : c'.discoveryUrl.withoutUserinfo = c.discoveryUrl.withoutUserinfo

/-- What stands in one check for the sources of the other.  With IAS no source of keys does, since
these come from the discovery document. -/
def sourceFor (c c' : SignatureCheck) : Equiv.Perm KeySource :=
  match c.service with
  | .xsuaa => Equiv.swap ⟨c.tokenKeysUrl, none⟩ ⟨c'.tokenKeysUrl, none⟩
  | .ias => Equiv.refl KeySource

/-- **The disguise of a check as its twin.** -/
def Twins.disguise (h : Twins c c') : Disguise where
  source := sourceFor c c'
  place := Equiv.swap c.discoveryUrl c'.discoveryUrl
  source_withoutUserinfo s := by
    have hkeys : KeySource.withoutUserinfo ⟨c.tokenKeysUrl, none⟩ =
        KeySource.withoutUserinfo ⟨c'.tokenKeysUrl, none⟩ :=
      congrArg (KeySource.mk · none) h.tokenKeysUrl.symm
    rw [sourceFor]
    cases c.service with
    | xsuaa => exact Equiv.apply_swap_eq_self hkeys s
    | ias => rfl
  place_withoutUserinfo := Equiv.apply_swap_eq_self h.discoveryUrl.symm

/-- Whether a token of XSUAA names a place of the keys, and is trusted with it. -/
def NamesPlace (c : SignatureCheck) (t : Token) (url : Url) : Prop :=
  c.service = .xsuaa ∧ ∃ address, t.keySetUrl? = some address ∧
    trustedUrl? c.trustedDomains address = some url

/-- **A token keeps apart from two checks**: it does not name the place of the keys in the words of
one of the configurations. -/
def KeepsApart (c c' : SignatureCheck) (t : Token) : Prop :=
  ¬ c.NamesPlace t c.tokenKeysUrl ∧ ¬ c.NamesPlace t c'.tokenKeysUrl

/-- With IAS every token does, since it names no place of the keys. -/
theorem keepsApart_of_ias (hs : c.service = .ias) (t : Token) : KeepsApart c c' t := by
  constructor <;> exact fun h => nomatch hs.symm.trans h.1

/-- The document in force of a check of IAS, if there is one, gives a usable address of the
keys. -/
def Located (out : Surroundings) (c : SignatureCheck) (s : State) : Prop :=
  c.service = .ias → ∀ d, inForce out s c.discoveryUrl = .ok d → ∃ url, d.keysUrl = .ok url

/-- With XSUAA the source of a twin stands for the source of the check. -/
theorem Twins.xsuaaSource_eq (h : Twins c c') (hs : c.service = .xsuaa) {t : Token}
    (ht : KeepsApart c c' t) : c'.xsuaaSource t = (c.xsuaaSource t).map h.disguise.source := by
  have hswap : h.disguise.source =
      Equiv.swap ⟨c.tokenKeysUrl, none⟩ ⟨c'.tokenKeysUrl, none⟩ := by
    simp only [disguise, sourceFor, hs]
  rw [xsuaaSource, xsuaaSource, h.trustedDomains, hswap]
  cases hj : t.keySetUrl? with
  | none => exact congrArg Except.ok (Equiv.swap_apply_left _ _).symm
  | some address =>
    cases hu : trustedUrl? c.trustedDomains address with
    | none => simp [hu, Except.map]
    | some url =>
      have hnames : c.NamesPlace t url := ⟨hs, address, hj, hu⟩
      have hne : (⟨url, none⟩ : KeySource) ≠ ⟨c.tokenKeysUrl, none⟩ := fun e =>
        ht.1 ((KeySource.mk.inj e).1 ▸ hnames)
      have hne' : (⟨url, none⟩ : KeySource) ≠ ⟨c'.tokenKeysUrl, none⟩ := fun e =>
        ht.2 ((KeySource.mk.inj e).1 ▸ hnames)
      simp only [hu, Except.map, Equiv.swap_apply_of_ne_of_ne hne hne']

end SignatureCheck

/-! ## 3. The check -/

namespace Comparison

open SignatureCheck

variable {w : Comparison} {c c' : SignatureCheck} {out : Surroundings} {s s' : State} {t : Token}

theorem agree_xsuaaSource (hc : Twins c c') (hw : w.disguise = hc.disguise)
    (hs : c.service = .xsuaa) (ht : KeepsApart c c' t) (h : w.Alike s s') :
    w.Agree (fun a b => b = w.disguise.source a) ((ofExcept (c.xsuaaSource t)).run out s)
      ((ofExcept (c'.xsuaaSource t)).run out s') := by
  rw [hc.xsuaaSource_eq hs ht, ← hw]
  refine Agree.ofExcept ?_ h
  cases c.xsuaaSource t with
  | ok source => exact .value rfl
  | error e => exact .error (Or.inr rfl)

/-- With IAS, the sources are the same, or there is none for want of a usable address. -/
theorem agree_iasSource (ho : out.IgnoresUserinfo) (hc : Twins c c')
    (hw : w.disguise = hc.disguise) (hs : c.service = .ias) (hl : w.excuse ∨ Located out c s)
    (h : w.Alike s s') :
    w.Agree (fun a b => b = w.disguise.source a) ((c.iasSource t).run out s)
      ((c'.iasSource t).run out s') := by
  have hplace : c'.discoveryUrl = w.disguise.place c.discoveryUrl := by
    rw [hw]
    exact (Equiv.swap_apply_left _ _).symm
  have hsource : w.disguise.source = Equiv.refl KeySource := by
    rw [hw]
    simp only [Twins.disguise, sourceFor, hs]
  have hget := agree_getDiscovery c.discoveryUrl ho h
  rw [iasSource, iasSource, hplace, run_bind, run_bind]
  generalize hrun : (getDiscovery c.discoveryUrl).run out s = p at hget ⊢
  generalize (getDiscovery (w.disguise.place c.discoveryUrl)).run out s' = q at hget ⊢
  cases hget with
  | error he h => exact .error he h
  | crash h => exact .crash h
  | @value d _ s₁ s₁' hd h =>
    subst hd
    have hforce : inForce out s c.discoveryUrl = .ok d := (discovering_of_run hrun).eq_inForce.symm
    have hurl : w.Results Eq (c.discoveredUrl d) (c'.discoveredUrl d) := by
      cases hu : d.keysUrl with
      | ok url =>
        rw [discoveredUrl, discoveredUrl, hu]
        exact .value rfl
      | error e =>
        rw [discoveredUrl, discoveredUrl, hu]
        rcases hl with hx | hl
        · exact .error (Or.inl hx)
        · obtain ⟨url, hurl⟩ := hl hs d hforce
          rw [hu] at hurl
          cases hurl
    refine (Agree.ofExcept hurl h).bind fun hsame h => .pure ?_ h
    rw [hsame, hsource]
    rfl

/-- **The sources of two checks stand for each other.** -/
theorem agree_source (ho : out.IgnoresUserinfo) (hc : Twins c c')
    (hw : w.disguise = hc.disguise) (ht : KeepsApart c c' t) (hl : w.excuse ∨ Located out c s)
    (h : w.Alike s s') :
    w.Agree (fun a b => b = w.disguise.source a) ((c.source t).run out s)
      ((c'.source t).run out s') := by
  rw [source, source, hc.service]
  cases hs : c.service with
  | xsuaa => exact agree_xsuaaSource hc hw hs ht h
  | ias => exact agree_iasSource ho hc hw hs hl h

/-- **The set is found, missed and exchanged in the same way.** -/
theorem agree_keysFor (ho : out.IgnoresUserinfo) (source : KeySource) (alg : Algorithm)
    (id : Option String) (h : w.Alike s s') :
    w.Agree Eq ((keysFor source alg id).run out s)
      ((keysFor (w.disguise.source source) alg id).run out s') := by
  refine (agree_getKeys source ho h).bind fun {got _ _ _} hgot h => ?_
  subst hgot
  obtain ⟨held, origin⟩ := got
  cases hk : held.keys.select alg id with
  | ok k =>
    simp only [hk]
    exact .pure rfl h
  | error e =>
    cases origin with
    | network =>
      simp only [hk]
      exact .fail (Or.inr rfl) h
    | cache =>
      cases id with
      | none =>
        simp only [hk]
        exact .fail (Or.inr rfl) h
      | some i =>
        have hline : unknownLine source i = unknownLine (w.disguise.source source) i := by
          rw [unknownLine, unknownLine, w.disguise.text_source]
        simp only [hk]
        refine (Agree.log (Or.inr hline) h).bind fun _ h => ?_
        refine (agree_refreshKeys source ho h).bind fun {refreshed _ _ _} hrefreshed h => ?_
        subst hrefreshed
        by_cases hserial : refreshed.serial = held.serial
        · simp only [hserial, if_true]
          exact .fail (Or.inr rfl) h
        · simp only [hserial, if_false]
          exact .pure rfl h

/-- **The check of a token ends in the same way.** -/
theorem agree_check (ho : out.IgnoresUserinfo) (hc : Twins c c')
    (hw : w.disguise = hc.disguise) (ht : KeepsApart c c' t) (hl : w.excuse ∨ Located out c s)
    (h : w.Alike s s') :
    w.Agree Eq ((c.check t).run out s) ((c'.check t).run out s') := by
  rw [check, check]
  cases hp : precheck t with
  | error e => exact .error (Or.inr rfl) h
  | ok alg =>
    change w.Agree Eq ((c.source t >>= _).run out s) ((c'.source t >>= _).run out s')
    refine (agree_source ho hc hw ht hl h).bind fun {source _ _ _} hsource h => ?_
    subst hsource
    refine (agree_keysFor ho source alg t.keyId? h).bind fun {keys _ _ _} hkeys h => ?_
    subst hkeys
    refine (Agree.ofExcept (.refl _) h).bind fun {key _ _ _} hkey h => ?_
    subst hkey
    exact .ofExcept (.refl _) h

/-! ## 4. Verdicts -/

/-- Two verdicts that say the same. -/
inductive Verdicts (w : Comparison) : Verdict → Verdict → Prop
  | valid : Verdicts w .valid .valid
  | invalid {d d' : String} (h : w.excuse ∨ d = d') : Verdicts w (.invalid d) (.invalid d')

theorem Verdicts.refl (v : Verdict) : w.Verdicts v v := by
  cases v with
  | valid => exact .valid
  | invalid d => exact .invalid (Or.inr rfl)

theorem Verdicts.ofCheck {r r' : Except Error Unit} (h : w.Results Eq r r') :
    w.Verdicts (.ofCheck r) (.ofCheck r') := by
  cases h with
  | value => exact .valid
  | error he => exact .invalid (he.imp_right (congrArg Error.message))

theorem agree_validator (ho : out.IgnoresUserinfo) (hc : Twins c c')
    (hw : w.disguise = hc.disguise) (ht : KeepsApart c c' t) (hl : w.excuse ∨ Located out c s)
    (h : w.Alike s s') :
    w.Agree w.Verdicts ((Validator.ofAction c.check t).run out s)
      ((Validator.ofAction c'.check t).run out s') :=
  (agree_check ho hc hw ht hl h).attempt.bind fun hr h => .pure (.ofCheck hr) h

end Comparison

/-- A quiet validator gives its verdict without changing anything, and whatever is stored. -/
def Validator.Quiet (v : Validator) : Prop :=
  ∀ (out : Surroundings) (t : Token), ∃ verdict, ∀ s, (v t).run out s = (.ok verdict, s)

theorem Validator.quiet_ofCheck (check : Token → Except Error Unit) : (ofCheck check).Quiet :=
  fun _ t => ⟨Verdict.ofCheck (check t), fun _ => rfl⟩

theorem Validator.quiet_ofDated (check : Int → Token → Except Error Unit) :
    (ofDated check).Quiet :=
  fun out t => ⟨Verdict.ofCheck (check out.today t), fun _ => rfl⟩

namespace Comparison

open Validator

variable {w : Comparison} {out : Surroundings} {s s' : State} {t : Token}

/-- **A chain ends in the same way as its last validator**, if those before it are quiet: it comes
to the last one in the states in which it began, or it ends before. -/
theorem agree_allFrom {v v' : Validator} (h : w.Alike s s')
    (hv : w.Agree w.Verdicts ((v t).run out s) ((v' t).run out s')) :
    ∀ (quiet : List Validator) (index : Nat), (∀ q ∈ quiet, q.Quiet) →
      w.Agree w.Verdicts ((allFrom index (quiet ++ [v]) t).run out s)
        ((allFrom index (quiet ++ [v']) t).run out s')
  | [], index, _ => by
    refine hv.bind fun hverdict h => ?_
    cases hverdict with
    | valid => exact .pure .valid h
    | @invalid d d' hd =>
      refine (Agree.log (hd.imp_right (congrArg (refusalLine index))) h).bind fun _ h => ?_
      exact .pure (.invalid hd) h
  | q :: quiet, index, hq => by
    obtain ⟨verdict, hrun⟩ := hq q List.mem_cons_self out t
    rw [List.cons_append, List.cons_append, allFrom, allFrom, run_bind, run_bind, hrun, hrun]
    cases verdict with
    | valid =>
      exact agree_allFrom h hv quiet (index + 1) fun p hp => hq p (List.mem_cons_of_mem q hp)
    | invalid d => exact (Agree.log (Or.inr rfl) h).bind fun _ h => .pure (.refl _) h

end Comparison

/-! ## 5. Configurations that differ in user name and password -/

namespace ChainOptions

variable {o : ChainOptions} {url : Url} {c c' : SignatureCheck}

/-- The options with another service URL. -/
def withUrl (o : ChainOptions) (url : Url) : ChainOptions :=
  { o with config := { o.config with url } }

/-- The options of the usual chain: no check is exchanged, and none is added. -/
structure Usual (o : ChainOptions) : Prop where
  audience : o.audience = none
  added : o.added = []

/-- Where one configuration has a check of signatures, the other one has its twin. -/
theorem exists_twin (hu : url.withoutUserinfo = o.config.url.withoutUserinfo)
    (hc : o.signatureCheck = .ok c) :
    ∃ c', (o.withUrl url).signatureCheck = .ok c' ∧ SignatureCheck.Twins c c' := by
  obtain ⟨hservice, hkeys, hdiscovery, htrusted⟩ := signatureCheck_eq_ok hc
  obtain ⟨keysUrl, hk, hsameKeys⟩ := Config.exists_place hu hkeys
  obtain ⟨discoveryUrl, hd, hsameDiscovery⟩ := Config.exists_place hu hdiscovery
  refine ⟨⟨o.config.service, keysUrl, discoveryUrl, o.trusted⟩, ?_, ?_⟩
  · simp only [signatureCheck, SignatureCheck.ofConfig, Config.tokenKeysUrl, Config.discoveryUrl,
      withUrl, hk, hd, trusted]
    cases o.trustedDomains <;> rfl
  · exact ⟨hservice.symm, htrusted.symm, hsameKeys, hsameDiscovery⟩

theorem quiet_of_defaultAudience {v : Validator} (h : o.defaultAudience = .ok v) : v.Quiet := by
  rw [defaultAudience] at h
  cases hs : o.config.service with
  | ias =>
    simp only [hs, Except.ok.injEq] at h
    exact h ▸ Validator.quiet_ofCheck _
  | xsuaa =>
    simp only [hs, bind_eq_ok_iff] at h
    obtain ⟨identities, -, hend⟩ := h
    obtain rfl := Except.ok.inj hend
    exact Validator.quiet_ofCheck _

theorem quiet_of_issuerChecks {vs : List Validator} (h : o.issuerChecks = .ok vs) :
    ∀ v ∈ vs, v.Quiet := by
  intro v hv
  rw [issuerChecks] at h
  cases hs : o.config.service with
  | ias =>
    simp only [hs, Except.ok.injEq] at h
    rw [← h] at hv
    exact absurd hv List.not_mem_nil
  | xsuaa =>
    cases hd : o.config.domain with
    | none => simp [hs, hd] at h
    | some domain =>
      simp only [hs, hd, Except.ok.injEq] at h
      rw [← h, List.mem_singleton] at hv
      exact hv ▸ Validator.quiet_ofCheck _

/-- **The usual chain is some quiet checks and the check of the signature**, and the quiet checks do
not depend on the service URL. -/
theorem exists_quiet_of_build {chain : Chain} (hu : o.Usual) (h : o.build = .ok chain) :
    ∃ (c : SignatureCheck) (quiet : List Validator), o.signatureCheck = .ok c ∧
      (∀ q ∈ quiet, q.Quiet) ∧ chain = ⟨quiet ++ [Validator.ofAction c.check]⟩ ∧
      ∀ url c', (o.withUrl url).signatureCheck = .ok c' →
        (o.withUrl url).build = .ok ⟨quiet ++ [Validator.ofAction c'.check]⟩ := by
  simp only [build, bind_eq_ok_iff] at h
  obtain ⟨audience, ha, issuer, hi, c, hc, hend⟩ := h
  obtain rfl := Except.ok.inj hend
  have hquiet : audience.Quiet := by
    rw [audienceCheck, hu.audience] at ha
    exact quiet_of_defaultAudience ha
  refine ⟨c, Validator.ofDated (Timestamp.check (o.skew.getD Timestamp.defaultSkew)) ::
    audience :: issuer, hc, fun q hq => ?_, ?_, fun url c' hc' => ?_⟩
  · rcases List.mem_cons.mp hq with rfl | hq
    · exact Validator.quiet_ofDated _
    · rcases List.mem_cons.mp hq with rfl | hq
      · exact hquiet
      · exact quiet_of_issuerChecks hi q hq
  · rw [hu.added]
    rfl
  · have ha' : (o.withUrl url).audienceCheck = .ok audience := ha
    have hi' : (o.withUrl url).issuerChecks = .ok issuer := hi
    have hadded : (o.withUrl url).added = [] := hu.added
    simp only [build, ha', hi', hc', hadded]
    rfl

end ChainOptions

/-! ## 6. Runs -/

section Runs

variable {α : Type} (out : Surroundings) (v v' : α → Action Verdict) {s s' : State}

/-- The state after some inputs were validated, one after another. -/
def State.afterEach (s : State) (xs : List α) : State :=
  xs.foldl (fun s x => ((v x).run out s).2) s

/-- **What is shown of an input** that is validated after others: the verdict, and the lines that
are logged for it. -/
def State.shown (s : State) (before : List α) (x : α) :
    Except Failure Verdict × List LogLine :=
  (((v x).run out (s.afterEach out v before)).1,
    ((v x).run out (s.afterEach out v before)).2.log.drop (s.afterEach out v before).log.length)

variable {out v v'}

/-- Where two steps begin in states that are alike, the comparison begins. -/
theorem Comparison.alike_of_alike {δ : Disguise} {excuse : Prop} (h : State.Alike δ s s') :
    Comparison.Alike ⟨δ, s, s', excuse⟩ s s' where
  toAlike := h
  lines := ⟨[], [], (List.append_nil _).symm, (List.append_nil _).symm, Or.inr rfl⟩

/-- Two steps that agree end in states that are alike. -/
theorem Comparison.Agree.alike {w : Comparison} {β γ : Type} {rel : β → γ → Prop}
    {p : Except Failure β × State} {q : Except Failure γ × State} (h : w.Agree rel p q) :
    w.Alike p.2 q.2 := by
  cases h with
  | value _ hs => exact hs
  | error _ hs => exact hs
  | crash hs => exact hs

/-- Two steps that agree without an excuse show the same. -/
theorem Comparison.Agree.shown_eq {w : Comparison} {p q : Except Failure Verdict × State}
    (hw : ¬ w.excuse) (h : w.Agree w.Verdicts p q) :
    p.1 = q.1 ∧ p.2.log.drop w.first.log.length = q.2.log.drop w.second.log.length := by
  constructor
  · cases h with
    | value hv =>
      cases hv with
      | valid => rfl
      | invalid hd => rw [hd.resolve_left hw]
    | error he => rw [he.resolve_left hw]
    | crash => rfl
  · obtain ⟨told, told', hp, hq, ht⟩ := h.alike.lines
    rw [hp, hq, List.drop_left, List.drop_left, ht.resolve_left hw]

/-- **Runs that agree step by step show the same.**  If each step agrees that begins in states that
are alike, with an excuse at most where some condition does not hold, then what two runs show
of an input is the same wherever it holds. -/
theorem State.shown_eq {δ : Disguise} {fits : α → Prop} {located : State → Prop}
    (hstep : ∀ x s s', fits x → State.Alike δ s s' →
      Comparison.Agree ⟨δ, s, s', ¬ located s⟩ (Comparison.Verdicts ⟨δ, s, s', ¬ located s⟩)
        ((v x).run out s) ((v' x).run out s'))
    (h : State.Alike δ s s') {before : List α} {x : α} (hx : ∀ y ∈ before ++ [x], fits y)
    (hl : located (s.afterEach out v before)) :
    s.shown out v before x = s'.shown out v' before x := by
  induction before generalizing s s' with
  | nil =>
    obtain ⟨hverdict, hlines⟩ :=
      (hstep x s s' (hx x (List.mem_singleton_self x)) h).shown_eq (not_not_intro hl)
    exact Prod.ext hverdict hlines
  | cons y before ih =>
    have hagree := hstep y s s' (hx y List.mem_cons_self) h
    exact ih hagree.alike.toAlike (fun z hz => hx z (List.mem_cons_of_mem y hz)) hl

end Runs

/-! ## 7. Credentials -/

namespace SignatureCheck

variable {out : Surroundings} {c c' : SignatureCheck} {s : State}

theorem Twins.alike_of_fresh (h : Twins c c') (hs : s.Fresh) : State.Alike h.disguise s s where
  keys := ⟨by rw [hs.keys]; rfl, rfl, rfl, rfl, rfl, rfl⟩
  discovery := ⟨by rw [hs.discovery]; rfl, rfl, rfl⟩
  readings := rfl
  requests := rfl

/-- The signature validators of twins show the same of a token. -/
theorem Twins.shown_eq (h : Twins c c') (ho : out.IgnoresUserinfo) (hs : s.Fresh)
    {before : List Token} {t : Token} (ht : ∀ t' ∈ before ++ [t], KeepsApart c c' t')
    (hl : Located out c (s.afterEach out (Validator.ofAction c.check) before)) :
    s.shown out (Validator.ofAction c.check) before t =
      s.shown out (Validator.ofAction c'.check) before t := by
  refine State.shown_eq (fun t s s' ht hs => ?_) (h.alike_of_fresh hs) ht hl
  exact Comparison.agree_validator ho h rfl ht (or_comm.mp (Classical.em _))
    (Comparison.alike_of_alike hs)

/-- So do chains that end in them, of a text. -/
theorem Twins.shown_chain_eq (h : Twins c c') (ho : out.IgnoresUserinfo) (hs : s.Fresh)
    {quiet : List Validator} (hq : ∀ q ∈ quiet, q.Quiet) {before : List String} {text : String}
    (ht : ∀ text' ∈ before ++ [text], ∀ t, Token.parse text' = .ok t → KeepsApart c c' t)
    (hl : Located out c (s.afterEach out
      (Chain.validateText ⟨quiet ++ [Validator.ofAction c.check]⟩) before)) :
    s.shown out (Chain.validateText ⟨quiet ++ [Validator.ofAction c.check]⟩) before text =
      s.shown out (Chain.validateText ⟨quiet ++ [Validator.ofAction c'.check]⟩) before text := by
  refine State.shown_eq (fun text s s' ht hs => ?_) (h.alike_of_fresh hs) ht hl
  have hs : Comparison.Alike ⟨h.disguise, s, s', ¬ Located out c s⟩ s s' :=
    Comparison.alike_of_alike hs
  rw [Chain.validateText, Chain.validateText]
  cases hp : Token.parse text with
  | error e => exact .pure (.refl _) hs
  | ok t =>
    have hv := Comparison.agree_validator ho h rfl (ht t hp) (or_comm.mp (Classical.em _)) hs
    exact Comparison.agree_allFrom hs hv quiet 0 hq

end SignatureCheck

namespace ChainOptions

open SignatureCheck

/-- **Credentials in the configured URL do not show.**  The network does not look at user names and
passwords, and two configurations differ in those of their URLs only.  Then both have a check of
signatures, or a usual chain, if one of them has, and from a state in which nothing is stored they
show the same of each input, whatever was validated before it: the verdict with its words, and the
lines that are logged.  This holds of tokens that keep apart from both checks, at each step in which
the document in force gives a usable address of the keys. -/
theorem shown_eq_of_withoutUserinfo_eq {out : Surroundings} {o : ChainOptions} {url : Url}
    {c : SignatureCheck} (ho : out.IgnoresUserinfo)
    (hu : url.withoutUserinfo = o.config.url.withoutUserinfo) (hc : o.signatureCheck = .ok c) :
    ∃ c', (o.withUrl url).signatureCheck = .ok c' ∧
      (∀ (s : State) (before : List Token) (t : Token), s.Fresh →
        (∀ t' ∈ before ++ [t], KeepsApart c c' t') →
        Located out c (s.afterEach out (Validator.ofAction c.check) before) →
        s.shown out (Validator.ofAction c.check) before t =
          s.shown out (Validator.ofAction c'.check) before t) ∧
      ∀ chain, o.Usual → o.build = .ok chain → ∃ chain', (o.withUrl url).build = .ok chain' ∧
        ∀ (s : State) (before : List String) (text : String), s.Fresh →
          (∀ text' ∈ before ++ [text], ∀ t, Token.parse text' = .ok t → KeepsApart c c' t) →
          Located out c (s.afterEach out chain.validateText before) →
          s.shown out chain.validateText before text =
            s.shown out chain'.validateText before text := by
  obtain ⟨c', hc', htwins⟩ := exists_twin hu hc
  refine ⟨c', hc', fun s before t hs ht hl => htwins.shown_eq ho hs ht hl, ?_⟩
  intro chain husual hbuild
  obtain ⟨c₁, quiet, hc₁, hquiet, rfl, hbuild'⟩ := exists_quiet_of_build husual hbuild
  obtain rfl : c = c₁ := by simpa [hc] using hc₁
  refine ⟨_, hbuild' url c' hc', fun s before text hs ht hl => ?_⟩
  exact htwins.shown_chain_eq ho hs hquiet ht hl

/-- A user name and a password for an identity service of IAS that does not answer.  Whatever is
validated first shows the same. -/
theorem shown_eq_of_withoutUserinfo_eq_alice :
    let place (username : String) (password : Option String) : Url :=
      ⟨"https", some ⟨username, password, some (.domain "my.auth.com"), none⟩, .segments [""],
        none, none⟩
    let o : ChainOptions := { config := ⟨.ias, "client", none, place "" none, none, none, []⟩ }
    let alice : ChainOptions := o.withUrl (place "alice" (some "secret"))
    let out : Surroundings :=
      ⟨fun n => n, 0, fun _ source => .failure (.crypto source.withoutUserinfo.text)⟩
    ∃ c c' chain chain', o.signatureCheck = .ok c ∧ alice.signatureCheck = .ok c' ∧
      o.build = .ok chain ∧ alice.build = .ok chain' ∧
      (∀ t, State.shown out (Validator.ofAction c.check) {} [] t =
        State.shown out (Validator.ofAction c'.check) {} [] t) ∧
      ∀ text, State.shown out chain.validateText {} [] text =
        State.shown out chain'.validateText {} [] text := by
  intro place o alice out
  have hout : out.IgnoresUserinfo := fun _ source source' h => by simp only [out, h]
  obtain ⟨c', hc', htokens, hchains⟩ :=
    @shown_eq_of_withoutUserinfo_eq out o (place "alice" (some "secret")) _ hout rfl rfl
  obtain ⟨chain', hchain', htexts⟩ := hchains _ ⟨rfl, rfl⟩ rfl
  refine ⟨_, c', _, chain', rfl, hc', rfl, hchain', fun t => ?_, fun text => ?_⟩
  · exact htokens {} [] t ⟨rfl, rfl⟩ (fun t' _ => SignatureCheck.keepsApart_of_ias rfl t')
      (fun _ _ hd => nomatch hd)
  · exact htexts {} [] text ⟨rfl, rfl⟩
      (fun _ _ t _ => SignatureCheck.keepsApart_of_ias rfl t) (fun _ _ hd => nomatch hd)

/-- **A token can name the entry of one application.**  Two applications of XSUAA differ in user
name and password, and keys were fetched for a token that names no place.  The next token names the
address of the keys as the first application has it.  This application finds the keys and only logs
that the token is refused; the other one has another address, and fetches them from the one that is
named. -/
theorem lines_differ_for_named_place :
    let place (username : String) (password : Option String) : Url :=
      ⟨"https", some ⟨username, password, some (.domain "my.auth.com"), none⟩, .segments [""],
        none, none⟩
    let o : ChainOptions :=
      { config := ⟨.xsuaa, "client", none, place "" none, some "auth.com", some "app", []⟩ }
    let alice : ChainOptions := o.withUrl (place "alice" (some "secret"))
    let out : Surroundings :=
      ⟨fun n => n, 0, fun _ _ => .body (Text.Utf8.bytes "\x7b\x22keys\x22:[]\x7d")⟩
    let unplaced := "eyJhbGciOiJFUzI1NiJ9.e30.AAE"
    -- with "https://my.auth.com/token_keys" as its "jku"
    let placed :=
      "eyJhbGciOiJFUzI1NiIsImprdSI6Imh0dHBzOi8vbXkuYXV0aC5jb20vdG9rZW5fa2V5cyJ9.e30.AAE"
    let refusal := Validator.refusalLine 0
      "There is no Json Web Token Key of type 'EC' compatible with ES256 (kid missing)."
    out.IgnoresUserinfo ∧ alice.config.url.withoutUserinfo = o.config.url.withoutUserinfo ∧
      ∃ c c', o.signatureCheck = .ok c ∧ alice.signatureCheck = .ok c' ∧
        (State.shown out (Chain.validateText ⟨[Validator.ofAction c.check]⟩) {} [unplaced]
          placed).2 = [refusal] ∧
        (State.shown out (Chain.validateText ⟨[Validator.ofAction c'.check]⟩) {} [unplaced]
          placed).2 =
          [.debug "fetching json web keys from https://my.auth.com/token_keys",
            .warn "key set from https://my.auth.com/token_keys contains no usable keys",
            refusal] := by
  intro place o alice out unplaced placed refusal
  refine ⟨fun _ _ _ _ => rfl, rfl, _, _, rfl, rfl, ?_⟩
  decide +kernel

end ChainOptions
end TokenTrust

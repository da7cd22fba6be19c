/-
# Putting chains together

What a draft of a chain is told in any number of calls comes down to a few values: the last one of
each kind, and all validators that were added (`ChainDraft.after_new`).  Whatever else the calls
have in common is lost, in particular their order across kinds.

Of these values only some can be missing.  IAS needs nothing.  XSUAA needs a domain, for the issuer,
and application ids, unless the audience is checked in some other way (`ChainOptions.Lacks`).  The
places of the keys are not among them: a configuration that was built has a URL with a host, and
there are always places below it (`Config.exists_places`).
-/
import Mathlib.Data.List.Induction
import TokenTrust.Check.Builder
import TokenTrust.Proofs.Places

namespace TokenTrust

/-! ## 1. What is missing -/

namespace ChainOptions

/-- **What a chain is not built without**, in the words of the error that reports it.  It depends on
the configuration, on a second one, and on whether another check takes the place of the one for the
audience.  Of several things that are missing it is the first one: first the application id, then
the one of the second configuration, then the domain. -/
inductive Lacks (config : Config) (other : Option Config) (audience : Option Validator) :
    String → Prop
  | appId (hs : config.service = .xsuaa) (ha : audience = none) (h : config.appId = none) :
    Lacks config other audience "XSUAA configuration requires an application id"
  | otherAppId (hs : config.service = .xsuaa) (ha : audience = none) (hid : config.appId ≠ none)
    {second : Config} (ho : other = some second) (h : second.appId = none) :
    Lacks config other audience "second XSUAA configuration requires an application id"
  | domain (hs : config.service = .xsuaa)
    (hids : audience = none →
      config.appId ≠ none ∧ ∀ second, other = some second → second.appId ≠ none)
    (h : config.domain = none) :
    Lacks config other audience "XSUAA configuration requires an identity provider domain"

/-- Whether something is missing, in no particular order. -/
theorem exists_lacks_iff {config : Config} {other : Option Config} {audience : Option Validator} :
    (∃ what, Lacks config other audience what) ↔
      config.service = .xsuaa ∧ (config.domain = none ∨
        audience = none ∧ (config.appId = none ∨
          ∃ second, other = some second ∧ second.appId = none)) := by
  constructor
  · rintro ⟨what, hlacks⟩
    cases hlacks with
    | appId hs ha hid => exact ⟨hs, Or.inr ⟨ha, Or.inl hid⟩⟩
    | otherAppId hs ha _ ho hsecond => exact ⟨hs, Or.inr ⟨ha, Or.inr ⟨_, ho, hsecond⟩⟩⟩
    | domain hs _ hd => exact ⟨hs, Or.inl hd⟩
  · rintro ⟨hs, hmissing⟩
    by_cases hids : audience = none →
        config.appId ≠ none ∧ ∀ second, other = some second → second.appId ≠ none
    · rcases hmissing with hd | ⟨ha, hid | ⟨second, ho, hsecond⟩⟩
      · exact ⟨_, .domain hs hids hd⟩
      · exact absurd hid (hids ha).1
      · exact absurd hsecond ((hids ha).2 second ho)
    · obtain ⟨ha, hids⟩ := Classical.not_imp.mp hids
      by_cases hid : config.appId = none
      · exact ⟨_, .appId hs ha hid⟩
      by_cases hsecond : ∃ second, other = some second ∧ second.appId = none
      · obtain ⟨second, ho, hsecond⟩ := hsecond
        exact ⟨_, .otherAppId hs ha hid ho hsecond⟩
      · exact absurd ⟨hid, fun second ho hnone => hsecond ⟨second, ho, hnone⟩⟩ hids

variable {o : ChainOptions} {e : Error}

theorem identity_eq_error_iff {what : String} {c : Config} :
    identity what c = .error e ↔ c.appId = none ∧ e = lacks what := by
  unfold identity
  cases c.appId with
  | none => simp [eq_comm]
  | some appId => simp

/-- Of two application ids that are missing the first one is reported. -/
theorem identities_eq_error_iff :
    o.identities = .error e ↔
      o.config.appId = none ∧ e = lacks "XSUAA configuration" ∨
        o.config.appId ≠ none ∧ ∃ other, o.other = some other ∧ other.appId = none ∧
          e = lacks "second XSUAA configuration" := by
  unfold identities
  rw [bind_eq_error_iff, identity_eq_error_iff]
  refine or_congr_right ?_
  cases hid : o.config.appId with
  | none => simp [identity, hid]
  | some appId =>
    simp only [identity, hid, Except.ok.injEq, exists_eq_left']
    cases o.other with
    | none => simp [pure, Except.pure]
    | some other =>
      rw [bind_eq_error_iff, ← identity, identity_eq_error_iff]
      simp [pure, Except.pure]

theorem audienceCheck_eq_error_iff :
    o.audienceCheck = .error e ↔
      o.config.service = .xsuaa ∧ o.audience = none ∧ o.identities = .error e := by
  unfold audienceCheck defaultAudience
  cases o.audience with
  | some v => simp
  | none =>
    cases o.config.service with
    | ias => simp
    | xsuaa =>
      rw [bind_eq_error_iff]
      simp [pure, Except.pure]

theorem issuerChecks_eq_error_iff :
    o.issuerChecks = .error e ↔ o.config.service = .xsuaa ∧ o.config.domain = none ∧
      e = .configuration "XSUAA configuration requires an identity provider domain" := by
  unfold issuerChecks
  cases o.config.service with
  | ias => simp
  | xsuaa =>
    cases o.config.domain with
    | none => simp [eq_comm]
    | some domain => simp

/-- Nothing can go wrong with the check of the signature. -/
theorem exists_signatureCheck {draft : Config.Draft} (h : draft.build = .ok o.config) :
    ∃ c, o.signatureCheck = .ok c := by
  obtain ⟨⟨keysUrl, hkeys⟩, ⟨discoveryUrl, hdiscovery⟩⟩ := Config.exists_places h
  simp only [signatureCheck, SignatureCheck.ofConfig, hkeys, hdiscovery]
  cases o.trustedDomains with
  | none => exact ⟨_, rfl⟩
  | some domains => exact ⟨_, rfl⟩

/-- With XSUAA there is a check of the audience if no application id is missing, or it is not one
that asks for them. -/
theorem exists_audienceCheck_iff (hs : o.config.service = .xsuaa) :
    (∃ v, o.audienceCheck = .ok v) ↔ (o.audience = none →
      o.config.appId ≠ none ∧ ∀ other, o.other = some other → other.appId ≠ none) := by
  constructor
  · rintro ⟨v, hv⟩ ha
    have hids (e : Error) : o.identities ≠ .error e := by
      intro he
      rw [audienceCheck_eq_error_iff.mpr ⟨hs, ha, he⟩] at hv
      exact nomatch hv
    have hid : o.config.appId ≠ none := fun hid =>
      hids _ (identities_eq_error_iff.mpr (Or.inl ⟨hid, rfl⟩))
    refine ⟨hid, fun other ho hother => ?_⟩
    exact hids _ (identities_eq_error_iff.mpr (Or.inr ⟨hid, other, ho, hother, rfl⟩))
  · intro hknown
    cases haudience : o.audienceCheck with
    | ok v => exact ⟨v, rfl⟩
    | error e =>
      obtain ⟨-, ha, hids⟩ := audienceCheck_eq_error_iff.mp haudience
      obtain ⟨hid, hother⟩ := hknown ha
      rcases identities_eq_error_iff.mp hids with ⟨hnone, -⟩ | ⟨-, other, ho, hnone, -⟩
      · exact absurd hnone hid
      · exact absurd hnone (hother other ho)

/-- **A chain is not built exactly if something is missing**, and the error says what. -/
theorem build_eq_error_iff {draft : Config.Draft} (h : draft.build = .ok o.config) :
    o.build = .error e ↔
      ∃ what, Lacks o.config o.other o.audience what ∧ e = .configuration what := by
  obtain ⟨c, hc⟩ := exists_signatureCheck h
  have hbuild : o.build = .error e ↔ o.audienceCheck = .error e ∨
      (∃ v, o.audienceCheck = .ok v) ∧ o.issuerChecks = .error e := by
    unfold build
    rw [bind_eq_error_iff]
    refine or_congr_right ?_
    simp [bind_eq_error_iff, hc, pure, Except.pure]
  rw [hbuild]
  constructor
  · rintro (haudience | ⟨haudience, hissuer⟩)
    · obtain ⟨hs, ha, hids⟩ := audienceCheck_eq_error_iff.mp haudience
      rcases identities_eq_error_iff.mp hids with ⟨hid, rfl⟩ | ⟨hid, other, ho, hother, rfl⟩
      · exact ⟨_, .appId hs ha hid, rfl⟩
      · exact ⟨_, .otherAppId hs ha hid ho hother, rfl⟩
    · obtain ⟨hs, hd, rfl⟩ := issuerChecks_eq_error_iff.mp hissuer
      exact ⟨_, .domain hs ((exists_audienceCheck_iff hs).mp haudience) hd, rfl⟩
  · rintro ⟨what, hlacks, rfl⟩
    cases hlacks with
    | appId hs ha hid =>
      have hids := identities_eq_error_iff.mpr (Or.inl ⟨hid, rfl⟩)
      exact Or.inl (audienceCheck_eq_error_iff.mpr ⟨hs, ha, hids⟩)
    | otherAppId hs ha hid ho hother =>
      have hids := identities_eq_error_iff.mpr (Or.inr ⟨hid, _, ho, hother, rfl⟩)
      exact Or.inl (audienceCheck_eq_error_iff.mpr ⟨hs, ha, hids⟩)
    | domain hs hids hd =>
      have hissuer := issuerChecks_eq_error_iff.mpr ⟨hs, hd, rfl⟩
      exact Or.inr ⟨(exists_audienceCheck_iff hs).mpr hids, hissuer⟩

/-! ## 2. What a chain is made of -/

/-- How many members a chain has that are not added. -/
def usualSize : Service → Nat
  | .xsuaa => 4
  | .ias => 3

/-- **A chain that is built has the usual members, and behind them what was added.** -/
theorem validators_of_build {chain : Chain} (h : o.build = .ok chain) :
    ∃ usual, chain.validators = usual ++ o.added ∧ usual.length = usualSize o.config.service := by
  simp only [build, bind_eq_ok_iff] at h
  obtain ⟨audience, -, issuer, hissuer, c, -, hend⟩ := h
  obtain rfl := Except.ok.inj hend
  refine ⟨Validator.ofDated (Timestamp.check (o.skew.getD Timestamp.defaultSkew)) :: audience ::
    (issuer ++ [Validator.ofAction c.check]), by simp, ?_⟩
  unfold issuerChecks at hissuer
  cases hs : o.config.service with
  | ias =>
    simp only [hs, Except.ok.injEq] at hissuer
    rw [← hissuer]
    rfl
  | xsuaa =>
    cases hd : o.config.domain with
    | none => simp [hs, hd] at hissuer
    | some domain =>
      simp only [hs, hd, Except.ok.injEq] at hissuer
      rw [← hissuer]
      rfl

end ChainOptions

/-! ## 3. What calls come down to -/

namespace ChainDraft

variable {κ δ α : Type} {calls calls' : List (Call κ δ)} {e : Error}

namespace Call

def added? : Call κ δ → Option Validator
  | .add v => some v
  | _ => none

def audience? : Call κ δ → Option Validator
  | .audience v => some v
  | _ => none

def keyCache? : Call κ δ → Option κ
  | .keyCache cache => some cache
  | _ => none

def discoveryCache? : Call κ δ → Option δ
  | .discoveryCache cache => some cache
  | _ => none

def other? : Call κ δ → Option (Option Config)
  | .other config => some config
  | _ => none

def skew? : Call κ δ → Option Duration
  | .skew d => some d
  | _ => none

def trustedDomains? : Call κ δ → Option (List String)
  | .trustedDomains domains => some domains
  | _ => none

end Call

/-- **What is said last** in some calls of one kind. -/
def last? (said? : Call κ δ → Option α) (calls : List (Call κ δ)) : Option α :=
  (calls.filterMap said?).getLast?

/-- The validators that some calls add, in their order. -/
def addedBy (calls : List (Call κ δ)) : List Validator :=
  calls.filterMap Call.added?

/-- A later call of the kind replaces what was said before. -/
theorem last?_concat (said? : Call κ δ → Option α) (calls : List (Call κ δ)) (call : Call κ δ) :
    last? said? (calls ++ [call]) = (said? call).or (last? said? calls) := by
  unfold last?
  cases h : said? call with
  | none => simp [h]
  | some a => simp [h]

/-- What was said at some time was said for the last time at some time. -/
theorem exists_last? (said? : Call κ δ → Option α) {call : Call κ δ} (hcall : call ∈ calls) {a : α}
    (h : said? call = some a) : ∃ b, last? said? calls = some b := by
  have hmem : a ∈ calls.filterMap said? := List.mem_filterMap.mpr ⟨call, hcall, h⟩
  exact ⟨_, List.getLast?_eq_some_getLast (List.ne_nil_of_mem hmem)⟩

/-- **What calls come down to.** -/
theorem after_new (config : Config) (calls : List (Call κ δ)) :
    (new config).after calls = {
      config
      other := (last? Call.other? calls).join
      audience := last? Call.audience? calls
      skew := last? Call.skew? calls
      trustedDomains := last? Call.trustedDomains? calls
      added := addedBy calls
      keyCache := last? Call.keyCache? calls
      discoveryCache := last? Call.discoveryCache? calls } := by
  induction calls using List.reverseRecOn with
  | nil => rfl
  | append_singleton calls call ih =>
    have hafter : (new config).after (calls ++ [call]) = ((new config).after calls).tell call :=
      List.foldl_append
    have hadded : addedBy (calls ++ [call]) = addedBy calls ++ call.added?.toList := by
      unfold addedBy
      cases h : call.added? <;> simp [h]
    rw [hafter, ih]
    simp only [last?_concat, hadded]
    cases call <;> simp [tell, Call.added?, Call.audience?, Call.keyCache?, Call.discoveryCache?,
      Call.other?, Call.skew?, Call.trustedDomains?]

/-- **Calls that say the same** in the end, of each kind, and add the same validators in the same
order. -/
structure SameSaid (calls calls' : List (Call κ δ)) : Prop where
  audience : last? Call.audience? calls = last? Call.audience? calls'
  keyCache : last? Call.keyCache? calls = last? Call.keyCache? calls'
  discoveryCache : last? Call.discoveryCache? calls = last? Call.discoveryCache? calls'
  other : last? Call.other? calls = last? Call.other? calls'
  skew : last? Call.skew? calls = last? Call.skew? calls'
  trustedDomains : last? Call.trustedDomains? calls = last? Call.trustedDomains? calls'
  added : addedBy calls = addedBy calls'

theorem SameSaid.after_eq (h : SameSaid calls calls') (config : Config) :
    (new config).after calls = (new config).after calls' := by
  rw [after_new, after_new, h.audience, h.keyCache, h.discoveryCache, h.other, h.skew,
    h.trustedDomains, h.added]

/-! ## 4. Building -/

/-- A draft that was told both caches is built as its options are. -/
theorem build_of_caches {d : ChainDraft κ δ} {keys : κ} {documents : δ}
    (hkeys : d.keyCache = some keys) (hdocuments : d.discoveryCache = some documents)
    (newKeyCache : Except Error κ) (newDiscoveryCache : Except Error δ) :
    d.build newKeyCache newDiscoveryCache =
      (fun chain => ⟨chain, keys, documents⟩) <$> d.toChainOptions.build := by
  unfold build ChainOptions.build
  rw [hkeys, hdocuments]
  cases d.audienceCheck with
  | error e => rfl
  | ok audience =>
    cases d.issuerChecks with
    | error e => rfl
    | ok issuer =>
      cases d.signatureCheck with
      | error e => rfl
      | ok c => rfl

/-- **A chain is built exactly if the data that it needs are there.**  A configuration was built,
and a draft of a chain for it is told both caches and anything else, in any order and any number of
times.

* No chain is built exactly if the service is XSUAA, and there is no domain, or no other check of
  the audience was given and an application id is missing, the one of the configuration or the one
  of the second configuration that was given last.
* The error is one of the configuration, and it says what is missing first (`ChainOptions.Lacks`).
* If a chain is built, it has the caches that were given last, and its members are the usual ones,
  four with XSUAA and three with IAS, and behind them the validators that were added, in their
  order.
* Other calls that say the same in the end have the same outcome, in whatever order they say it. -/
theorem built_iff_complete {draft : Config.Draft} {config : Config} (h : draft.build = .ok config)
    (newKeyCache : Except Error κ) (newDiscoveryCache : Except Error δ)
    (calls : List (Call κ δ)) (hkeys : ∃ cache, .keyCache cache ∈ calls)
    (hdocuments : ∃ cache, .discoveryCache cache ∈ calls) :
    let built (calls : List (Call κ δ)) : Except Error (CachedChain κ δ) :=
      ((new config).after calls).build newKeyCache newDiscoveryCache
    let audience := last? Call.audience? calls
    let other := (last? Call.other? calls).join
    ((∃ e, built calls = .error e) ↔
      config.service = .xsuaa ∧ (config.domain = none ∨
        audience = none ∧ (config.appId = none ∨
          ∃ second, other = some second ∧ second.appId = none))) ∧
      (∀ e, built calls = .error e ↔
        ∃ what, ChainOptions.Lacks config other audience what ∧ e = .configuration what) ∧
      (∀ c, built calls = .ok c →
        last? Call.keyCache? calls = some c.keyCache ∧
          last? Call.discoveryCache? calls = some c.discoveryCache ∧
          ∃ usual, c.chain.validators = usual ++ addedBy calls ∧
            usual.length = ChainOptions.usualSize config.service) ∧
      ∀ calls', SameSaid calls calls' → built calls = built calls' := by
  intro built audience other
  obtain ⟨_, hmem⟩ := hkeys
  obtain ⟨keys, hkeys⟩ := exists_last? Call.keyCache? hmem rfl
  obtain ⟨_, hmem⟩ := hdocuments
  obtain ⟨documents, hdocuments⟩ := exists_last? Call.discoveryCache? hmem rfl
  let o : ChainOptions := ((new config).after calls : ChainDraft κ δ).toChainOptions
  have hafter := after_new (κ := κ) (δ := δ) config calls
  have hconfig : o.config = config := congrArg (·.config) hafter
  have hother : o.other = other := congrArg (·.other) hafter
  have haudience : o.audience = audience := congrArg (·.audience) hafter
  have hadded : o.added = addedBy calls := congrArg (·.added) hafter
  have hbuilt : built calls = (fun chain => ⟨chain, keys, documents⟩) <$> o.build :=
    build_of_caches ((congrArg (·.keyCache) hafter).trans hkeys)
      ((congrArg (·.discoveryCache) hafter).trans hdocuments) newKeyCache newDiscoveryCache
  have herror (e : Error) : built calls = .error e ↔
      ∃ what, ChainOptions.Lacks config other audience what ∧ e = .configuration what := by
    rw [hbuilt, map_eq_error_iff, ChainOptions.build_eq_error_iff (hconfig.symm ▸ h), hconfig,
      hother, haudience]
  refine ⟨?_, herror, fun c hc => ?_, fun calls' hsame => ?_⟩
  · rw [← ChainOptions.exists_lacks_iff]
    constructor
    · rintro ⟨e, he⟩
      obtain ⟨what, hlacks, -⟩ := (herror e).mp he
      exact ⟨what, hlacks⟩
    · rintro ⟨what, hlacks⟩
      exact ⟨_, (herror _).mpr ⟨what, hlacks, rfl⟩⟩
  · rw [hbuilt, map_eq_ok_iff] at hc
    obtain ⟨chain, hchain, rfl⟩ := hc
    refine ⟨hkeys, hdocuments, ?_⟩
    rw [← hadded, ← hconfig]
    exact ChainOptions.validators_of_build hchain
  · simp only [built, hsame.after_eq config]

/-- A configuration of XSUAA without an application id, which is missed unless another check of the
audience is given.  What is said about a second configuration is taken back. -/
theorem built_iff_complete_custom_audience :
    let draft : Config.Draft :=
      { service := .xsuaa, clientId := some "client", url := some "https://my.auth.com",
        domain := some "auth.com" }
    let place : Url := ⟨"https", some ⟨"", none, some (.domain "my.auth.com"), none⟩,
      .segments [""], none, none⟩
    let config : Config := ⟨.xsuaa, "client", none, place, some "auth.com", none, []⟩
    let accepting : Validator := fun _ => pure .valid
    let calls : List (Call Nat Nat) :=
      [.other (some config), .keyCache 1, .add accepting, .discoveryCache 3, .keyCache 2,
        .other none]
    let built (calls : List (Call Nat Nat)) := ((new config).after calls).build (.ok 0) (.ok 0)
    draft.build = .ok config ∧
      built calls =
        .error (.configuration "XSUAA configuration requires an application id") ∧
      ∃ c, built (calls ++ [.audience accepting]) = .ok c ∧ c.keyCache = 2 ∧
        c.chain.validators.length = 5 := by
  intro draft place config accepting calls built
  have h : draft.build = .ok config := by decide +kernel
  refine ⟨h, ?_, ?_⟩
  · obtain ⟨-, herror, -⟩ := built_iff_complete h (.ok 0) (.ok 0) calls
      ⟨1, by simp [calls]⟩ ⟨3, by simp [calls]⟩
    exact (herror _).mpr ⟨_, .appId rfl rfl rfl, rfl⟩
  · obtain ⟨hfails, -, hmade, -⟩ := built_iff_complete h (.ok 0) (.ok 0)
      (calls ++ [.audience accepting]) ⟨1, by simp [calls]⟩ ⟨3, by simp [calls]⟩
    cases hc : built (calls ++ [.audience accepting]) with
    | error e =>
      obtain ⟨-, hd | ⟨ha, -⟩⟩ := hfails.mp ⟨e, hc⟩
      · exact nomatch hd
      · exact nomatch ha
    | ok c =>
      obtain ⟨hkeys, -, usual, hvalidators, husual⟩ := hmade c hc
      refine ⟨c, rfl, (Option.some.inj hkeys).symm, ?_⟩
      rw [hvalidators, List.length_append, husual]
      rfl

end ChainDraft
end TokenTrust

/-
# Where the library can be led

What is asked of the network, and for whom, is settled by the configuration and not by tokens.  A
check of a signature asks only the places of `Place`: with XSUAA the configured address of the keys,
or an address that the token names below a trusted domain; with IAS the discovery document, and
the address of the keys that it gives, for the zone of the token.

The address that a token names goes through one filter (`trustedUrl?_eq_some_iff`), and what is
asked later is the URL that came out of it and not the text that went in.  With IAS the token has
no say in any address (`url_source_eq`).
-/
import TokenTrust.Check.Builder
import TokenTrust.Proofs.Operation
import TokenTrust.Proofs.Subdomain
import TokenTrust.Proofs.Token

namespace TokenTrust

open TokenTrust.Action TokenTrust.Retrieval

/-! ## 1. What is asked between two states -/

/-- **Whatever is asked between two states** satisfies some condition. -/
def AsksOnly (may : KeySource → Prop) (s s' : State) : Prop :=
  ∃ asked, s'.requests = s.requests ++ asked ∧ ∀ source ∈ asked, may source

namespace AsksOnly

variable {may : KeySource → Prop} {s s' : State}

/-- Where nothing is asked, everything that is asked is as it may be. -/
theorem of_requests_eq (h : s'.requests = s.requests) : AsksOnly may s s' :=
  ⟨[], by rw [h, List.append_nil], fun _ hm => nomatch hm⟩

theorem of_requests_eq_concat {source : KeySource} (hm : may source)
    (h : s'.requests = s.requests ++ [source]) : AsksOnly may s s' :=
  ⟨[source], h, fun _ hs => List.mem_singleton.mp hs ▸ hm⟩

theorem trans {s₁ s₂ : State} (h : AsksOnly may s s₁) (h' : AsksOnly may s₁ s₂) :
    AsksOnly may s s₂ := by
  obtain ⟨asked, hs, hmay⟩ := h
  obtain ⟨asked', hs', hmay'⟩ := h'
  refine ⟨asked ++ asked', by rw [hs', hs, List.append_assoc], fun source hm => ?_⟩
  rcases List.mem_append.mp hm with hm | hm
  · exact hmay source hm
  · exact hmay' source hm

end AsksOnly

/-- Retrievals ask what may be asked, if they are made for it. -/
theorem Retrieval.kept_asksOnly (out : Surroundings) (may : KeySource → Prop) :
    Kept out may (AsksOnly may) where
  trans := AsksOnly.trans
  advance s n := .of_requests_eq (State.advance_requests s n)
  logging s lines := .of_requests_eq (State.logging_requests s lines)
  fetching hm h := .of_requests_eq_concat hm h.requests_eq
  discovering hm h := by
    cases h with
    | locked => exact .of_requests_eq rfl
    | found => exact .of_requests_eq (State.advance_requests _ 1)
    | failed => exact .of_requests_eq_concat hm (by simp)
    | undated => exact .of_requests_eq_concat hm (by simp)
    | stored => exact .of_requests_eq_concat hm (by simp)

/-! ## 2. The filter for addresses that a token names -/

namespace SignatureCheck

/-- What comes out of the filter is the URL that was named, without its query, and everything that
a token may not choose is as it has to be. -/
theorem trustedUrl?_eq_some_iff {domains : List String} {address : String} {url : Url} :
    trustedUrl? domains address = some url ↔
      ∃ named, Url.parse address = .ok named ∧ url = { named with query := none } ∧
        url.scheme = "https" ∧ url.fragment = none ∧ url.lastSegment? = some "token_keys" ∧
        ∃ domain ∈ domains, ∃ host, url.hostText? = some host ∧ Domain.Within domain host := by
  have hwithin (u : Url) : isWithin domains u = true ↔
      ∃ domain ∈ domains, ∃ host, u.hostText? = some host ∧ Domain.Within domain host := by
    simp only [isWithin, Option.any_eq_true, List.any_eq_true, Domain.covers_iff_within]
    constructor
    · rintro ⟨host, hhost, domain, hd, hw⟩
      exact ⟨domain, hd, host, hhost, hw⟩
    · rintro ⟨domain, hd, host, hhost, hw⟩
      exact ⟨host, hhost, domain, hd, hw⟩
  have hkind (u : Url) : isTokenKeysUrl u = true ↔
      u.scheme = "https" ∧ u.fragment = none ∧ u.lastSegment? = some "token_keys" := by
    simp [isTokenKeysUrl, lastSegment, and_assoc]
  -- a path with segments is not changed when the query goes
  have hquery (u : Url) (h : u.lastSegment? = some "token_keys") :
      u.withoutQuery = { u with query := none } := by
    cases hp : u.path with
    | plain text => simp [Url.lastSegment?, hp] at h
    | segments ss => simp [Url.withoutQuery, Url.settled, hp]
  cases hparse : Url.parse address with
  | error e => simp [trustedUrl?, hparse]
  | ok named =>
    simp only [trustedUrl?, hparse, Bool.and_eq_true, Option.ite_none_right_eq_some,
      Option.some.injEq, hwithin, hkind]
    constructor
    · rintro ⟨⟨⟨hs, hf, hl⟩, hw⟩, rfl⟩
      rw [hquery named hl] at hw ⊢
      exact ⟨named, rfl, rfl, hs, hf, hl, hw⟩
    · rintro ⟨named', hn, rfl, hs, hf, hl, hw⟩
      obtain rfl : named = named' := by simpa using hn
      rw [hquery named hl]
      exact ⟨⟨⟨hs, hf, hl⟩, hw⟩, rfl⟩

end SignatureCheck

/-! ## 3. The discovery document -/

namespace Retrieval

variable {out : Surroundings} {s s' : State} {url : Url}

/-- A document that was read, if it can be told when it would expire. -/
def dated (out : Surroundings) (s : State) (document : Discovery) : Except Failure Discovery :=
  if s.discovery.expiryTold (out.clock (s.readings + 1)) then .ok document else .error .crash

/-- **The discovery document in force** at a URL: the one that is stored and may be used, and
otherwise the one that the network would answer now and that could be stored.  There is none in a
poisoned cache. -/
def inForce (out : Surroundings) (s : State) (url : Url) : Except Failure Discovery :=
  if s.discovery.poisoned then .error (.error DiscoveryCache.lockedError) else
    match s.discovery.live? url (out.clock s.readings) with
    | some document => .ok document
    | none => (discoveryIn url (out.answer s.requests.length ⟨url, none⟩)).bind (dated out s)

theorem Discovering.eq_inForce {r : Except Failure Discovery} (h : Discovering out url s r s') :
    r = inForce out s url := by
  cases h with
  | locked hp => simp [inForce, hp]
  | found h hp => simp [inForce, hp, h]
  | failed h ha hp => simp [inForce, hp, h, ha, Except.bind]
  | undated h ha hp hd => simp [inForce, hp, h, ha, Except.bind, dated, hd]
  | stored h ha hp hd => simp [inForce, hp, h, ha, Except.bind, dated, hd]

end Retrieval

namespace SignatureCheck

variable {out out' : Surroundings} {c : SignatureCheck} {t t' : Token} {s s' : State}

/-- With IAS the source of the keys is the one that the document in force names. -/
theorem run_source_ias (hc : c.service = .ias) :
    ((c.source t).run out s).1 = (inForce out s c.discoveryUrl).bind (c.sourceIn t) := by
  cases hrun : (c.source t).run out s with
  | mk r s' =>
    cases sourcing_of_run hrun with
    | xsuaa hc' => rw [hc] at hc'; exact nomatch hc'
    | ias _ hd => rw [(discovering_of_run hd).eq_inForce]

/-- The token adds its zone to the source that a document names, and nothing to the URL. -/
theorem url_sourceIn (c : SignatureCheck) (t : Token) (d : Discovery) :
    (c.sourceIn t d).map (·.url) = (c.discoveredUrl d).mapError .error := by
  rw [sourceIn]
  cases c.discoveredUrl d with
  | error e => rfl
  | ok url => rfl

/-- **With IAS no token chooses an address**: where the discovery document is the same, so is the
URL of the keys. -/
theorem url_source_eq (hc : c.service = .ias)
    (h : inForce out s c.discoveryUrl = inForce out' s' c.discoveryUrl) :
    ((c.source t).run out s).1.map (·.url) = ((c.source t').run out' s').1.map (·.url) := by
  rw [run_source_ias hc, run_source_ias hc, h]
  cases inForce out' s' c.discoveryUrl with
  | error f => rfl
  | ok d =>
    change (c.sourceIn t d).map (·.url) = (c.sourceIn t' d).map (·.url)
    rw [url_sourceIn, url_sourceIn]

end SignatureCheck

/-! ## 4. The places -/

namespace ChainOptions

/-- The domains in which a token may name the place of its keys: those that are given, and otherwise
the domain of the configuration. -/
def trusted (o : ChainOptions) : List String :=
  o.trustedDomains.getD o.config.domain.toList

/-- A check of signatures is made of the configuration and of the trusted domains. -/
theorem signatureCheck_eq_ok {o : ChainOptions} {c : SignatureCheck}
    (h : o.signatureCheck = .ok c) :
    c.service = o.config.service ∧ o.config.tokenKeysUrl = .ok c.tokenKeysUrl ∧
      o.config.discoveryUrl = .ok c.discoveryUrl ∧ c.trustedDomains = o.trusted := by
  simp only [signatureCheck, SignatureCheck.ofConfig, bind_eq_ok_iff] at h
  obtain ⟨_, ⟨keysUrl, hk, discoveryUrl, hd, hmade⟩, hend⟩ := h
  obtain rfl := Except.ok.inj hmade
  cases ht : o.trustedDomains with
  | none =>
    simp only [ht] at hend
    obtain rfl := Except.ok.inj hend
    exact ⟨rfl, hk, hd, by rw [trusted, ht]; rfl⟩
  | some domains =>
    simp only [ht] at hend
    obtain rfl := Except.ok.inj hend
    exact ⟨rfl, hk, hd, by rw [trusted, ht]; rfl⟩

end ChainOptions

/-- **The places that a check of a signature may ask**, and for whom. -/
inductive Place (out : Surroundings) (s : State) (o : ChainOptions) (t : Token) :
    KeySource → Prop
  /-- The address of the keys of the configuration, if the token names none. -/
  | configured {url : Url} (hs : o.config.service = .xsuaa)
    (hj : ∀ address, t.header.get? "jku" ≠ some (.string address))
    (hu : o.config.tokenKeysUrl = .ok url) : Place out s o t ⟨url, none⟩
  /-- An address of keys below a trusted domain that the token names. -/
  | named {url named : Url} {address domain host : String} (hs : o.config.service = .xsuaa)
    (hj : t.header.get? "jku" = some (.string address)) (hu : Url.parse address = .ok named)
    (hq : url = { named with query := none }) (hscheme : url.scheme = "https")
    (hfragment : url.fragment = none) (hlast : url.lastSegment? = some "token_keys")
    (hd : domain ∈ o.trusted) (hh : url.hostText? = some host) (hw : Domain.Within domain host) :
    Place out s o t ⟨url, none⟩
  /-- The discovery document of the configuration. -/
  | discovery {url : Url} (hs : o.config.service = .ias) (hu : o.config.discoveryUrl = .ok url) :
    Place out s o t ⟨url, none⟩
  /-- The address of keys in the discovery document in force, for the zone of the token. -/
  | discovered {place url : Url} {document : Discovery} (hs : o.config.service = .ias)
    (hp : o.config.discoveryUrl = .ok place) (hd : inForce out s place = .ok document)
    (hu : document.keysUrl = .ok url) : Place out s o t ⟨url, t.zoneId?⟩

namespace SignatureCheck

variable {out : Surroundings} {o : ChainOptions} {c : SignatureCheck} {t : Token} {s s' : State}
variable {source : KeySource}

/-- With XSUAA the source of the keys is one of the places. -/
theorem place_of_xsuaaSource (hc : o.signatureCheck = .ok c) (hs : c.service = .xsuaa)
    (h : c.xsuaaSource t = .ok source) : Place out s o t source := by
  obtain ⟨hservice, hkeys, -, htrusted⟩ := ChainOptions.signatureCheck_eq_ok hc
  rw [hservice] at hs
  rw [xsuaaSource] at h
  cases hj : t.keySetUrl? with
  | none =>
    simp only [hj, Except.ok.injEq] at h
    subst h
    refine .configured hs (fun address ha => ?_) hkeys
    rw [Token.keySetUrl?, Token.headerString?_eq_some_iff.mpr ha] at hj
    exact nomatch hj
  | some address =>
    simp only [hj] at h
    cases hu : trustedUrl? c.trustedDomains address with
    | none => simp [hu] at h
    | some url =>
      simp only [hu, Except.ok.injEq] at h
      subst h
      obtain ⟨named, hparse, hq, hscheme, hfragment, hlast, domain, hd, host, hh, hw⟩ :=
        trustedUrl?_eq_some_iff.mp hu
      exact .named hs (Token.headerString?_eq_some_iff.mp hj) hparse hq hscheme hfragment hlast
        (htrusted ▸ hd) hh hw

/-- A source that a discovery document names has the URL of the document, and the zone of the
token. -/
theorem sourceIn_eq_ok_iff {d : Discovery} :
    c.sourceIn t d = .ok source ↔ ∃ url, d.keysUrl = .ok url ∧ source = ⟨url, t.zoneId?⟩ := by
  rw [sourceIn, discoveredUrl]
  cases d.keysUrl with
  | error e => simp [Except.map]
  | ok url => simp [Except.map, eq_comm]

/-- **The source of the keys is one of the places.** -/
theorem place_of_source {s₁ : State} (hc : o.signatureCheck = .ok c)
    (h : (c.source t).run out s = (.ok source, s₁)) : Place out s o t source := by
  obtain ⟨hservice, -, hdiscovery, -⟩ := ChainOptions.signatureCheck_eq_ok hc
  have hsourcing := sourcing_of_run h
  generalize hr : (Except.ok source : Except Failure KeySource) = r at hsourcing
  cases hsourcing with
  | xsuaa hs =>
    cases hx : c.xsuaaSource t with
    | error e => rw [hx] at hr; exact nomatch hr
    | ok source' =>
      rw [hx] at hr
      cases hr
      exact place_of_xsuaaSource hc hs hx
  | @ias q _ hs hd =>
    have hq : q = inForce out s c.discoveryUrl := (discovering_of_run hd).eq_inForce
    cases q with
    | error f => exact nomatch hr
    | ok document =>
      obtain ⟨url, hu, rfl⟩ := sourceIn_eq_ok_iff.mp hr.symm
      rw [hservice] at hs
      exact .discovered hs hdiscovery hq.symm hu

/-- **A check asks only the places.** -/
theorem asksOnly_check (out : Surroundings) (s : State) (t : Token)
    (hc : o.signatureCheck = .ok c) :
    AsksOnly (Place out s o t) s ((c.check t).run out s).2 := by
  obtain ⟨hservice, -, hdiscovery, -⟩ := ChainOptions.signatureCheck_eq_ok hc
  refine kept_checking (kept_asksOnly out _) (fun hs => ?_) (fun _ _ hrun => ?_)
    (checking_run out c t s)
  · rw [hservice] at hs
    exact .discovery hs hdiscovery
  · exact place_of_source hc hrun

/-- **Checks are confined.**  After any run, a check of a signature that belongs to a configuration
asks only the places, whatever the token is.  With IAS, another token would have led to the same
URL of the keys, at any time and in any surroundings in which the same documents are stored, and
could be stored, and the discovery document would be answered in the same way. -/
theorem checks_confined (out : Surroundings) (s : State) (ops : List Operation) (t : Token)
    (hc : o.signatureCheck = .ok c) :
    AsksOnly (Place out (s.after out ops) o t) (s.after out ops)
        ((s.after out ops).next out (.validate c t)) ∧
      (o.config.service = .ias → ∀ (t' : Token) (out' : Surroundings) (s' : State),
        s'.discovery.poisoned = (s.after out ops).discovery.poisoned →
        s'.discovery.live? c.discoveryUrl (out'.clock s'.readings) =
            (s.after out ops).discovery.live? c.discoveryUrl
              (out.clock (s.after out ops).readings) →
        out'.answer s'.requests.length ⟨c.discoveryUrl, none⟩ =
            out.answer (s.after out ops).requests.length ⟨c.discoveryUrl, none⟩ →
        s'.discovery.expiryTold (out'.clock (s'.readings + 1)) =
            (s.after out ops).discovery.expiryTold (out.clock ((s.after out ops).readings + 1)) →
        ((c.source t').run out' s').1.map (·.url) =
          ((c.source t).run out (s.after out ops)).1.map (·.url)) := by
  obtain ⟨hservice, -, -, -⟩ := ChainOptions.signatureCheck_eq_ok hc
  constructor
  · rw [State.next_validate]
    exact asksOnly_check out _ t hc
  · intro hs t' out' s' hpoisoned hlive hanswer htold
    have hdated : dated out' s' = dated out (s.after out ops) := by
      funext document
      rw [dated, dated, htold]
    refine url_source_eq (hservice.trans hs) ?_
    rw [inForce, inForce, hpoisoned, hlive, hanswer, hdated]

/-- With IAS a check asks for the discovery document and then for the keys that it names, for the
zone of the token, although the keys of another zone are stored.  A token of that zone, which names
an address of its own besides, leads to the same URL. -/
theorem checks_confined_ias :
    let base : Url := ⟨"https", some ⟨"", none, some (.domain "my.auth.com"), none⟩,
      .segments [""], none, none⟩
    let place : Url := { base with path := .segments [".well-known", "openid-configuration"] }
    let keysUrl : Url := { base with path := .segments ["keys"] }
    let o : ChainOptions := { config := ⟨.ias, "client", none, base, none, none, []⟩ }
    let out : Surroundings := ⟨fun n => n, 0, fun _ source => .body (Text.Utf8.bytes
      (if source.url = place then "\x7b\x22jwks_uri\x22:\x22https://my.auth.com/keys\x22\x7d"
      else "\x7b\x22keys\x22:[]\x7d"))⟩
    let issued (zone : String) (header : Json.Members) : Token :=
      ⟨"a.b.AAE", 3, ("alg", .string "RS256") :: header, [("app_tid", .string zone)], [0, 1]⟩
    let t : Token := issued "here" []
    let t' : Token := issued "there" [("jku", .string "https://evil.example/token_keys")]
    let s : State := State.after out {} [.get ⟨keysUrl, some "there"⟩]
    ∃ c, o.signatureCheck = .ok c ∧
      (s.next out (.validate c t)).requests =
        s.requests ++ [⟨place, none⟩, ⟨keysUrl, some "here"⟩] ∧
      Place out s o t ⟨place, none⟩ ∧ Place out s o t ⟨keysUrl, some "here"⟩ ∧
      ((c.source t).run out s).1.map (·.url) = .ok keysUrl ∧
      ((c.source t').run out s).1.map (·.url) = .ok keysUrl := by
  intro base place keysUrl o out issued t t' s
  let c : SignatureCheck :=
    ⟨.ias, { base with path := .segments ["token_keys"] }, place, []⟩
  have hc : o.signatureCheck = .ok c := by decide +kernel
  have hrequests : (s.next out (.validate c t)).requests =
      s.requests ++ [⟨place, none⟩, ⟨keysUrl, some "here"⟩] := by decide +kernel
  have hurl : ((c.source t).run out s).1.map (·.url) = .ok keysUrl := by decide +kernel
  obtain ⟨⟨asked, hasked, hplaces⟩, hother⟩ :=
    checks_confined out {} [.get ⟨keysUrl, some "there"⟩] t hc
  obtain rfl := List.append_cancel_left (hasked.symm.trans hrequests)
  refine ⟨c, hc, hrequests, hplaces _ (by simp), hplaces _ (by simp), hurl, ?_⟩
  exact (hother rfl t' out s rfl rfl rfl rfl).trans hurl

end SignatureCheck
end TokenTrust

/-
# Tokens that name one endpoint

With XSUAA a token may say where its keys are, so whoever makes tokens has a say in what the cache
holds and in what is asked for.  What keeps this small is that the tokens of one endpoint come to
one source.  The source has the scheme, the host, the port and the path of the address and never a
query, and an address with a fragment is not accepted.

One part of the address is not taken away.  The source has the user name and the password that the
token put in front of the host, so an endpoint has a source for every pair of them
(`userinfo_splits_endpoint`).

Tokens that agree on these too do share one source, its entry and one request
(`one_source_for_endpoint`).  Along a run of such tokens, nobody is asked until one of them stores
the keys, and from then on the entry is enough for each of the others (`Shared.next`).
-/
import TokenTrust.Proofs.Budget
import TokenTrust.Proofs.Confinement
import TokenTrust.Proofs.Room

namespace TokenTrust

open TokenTrust.Action TokenTrust.Retrieval

/-! ## 1. The parts of an address -/

namespace Url

/-- The port, unless it is the one the scheme implies. -/
def port? (u : Url) : Option Nat :=
  u.authority.bind (·.port)

/-- User name and password. -/
def userinfo? (u : Url) : Option (String × Option String) :=
  u.authority.map fun a => (a.username, a.password)

/-- **Two URLs name one endpoint**: they have the same scheme, host, port and path. -/
structure SameEndpoint (u v : Url) : Prop where
  scheme : u.scheme = v.scheme
  host : u.host? = v.host?
  port : u.port? = v.port?
  path : u.path = v.path

variable {u v : Url}

/-- There is nothing in an authority besides the host, the port, the user name and the password. -/
theorem authority_eq_of_parts (hi : u.userinfo? = v.userinfo?) (hh : u.host? = v.host?)
    (hp : u.port? = v.port?) : u.authority = v.authority := by
  cases hu : u.authority with
  | none =>
    have hnone : v.authority.map (fun a => (a.username, a.password)) = none := by
      rw [← userinfo?, ← hi, userinfo?, hu, Option.map_none]
    exact (Option.map_eq_none_iff.mp hnone).symm
  | some a =>
    have hsome : v.authority.map (fun a => (a.username, a.password)) =
        some (a.username, a.password) := by
      rw [← userinfo?, ← hi, userinfo?, hu, Option.map_some]
    obtain ⟨b, hv, hb⟩ := Option.map_eq_some_iff.mp hsome
    obtain ⟨hname, hpassword⟩ := Prod.mk.inj hb
    simp only [host?, port?, hu, hv, Option.bind_some] at hh hp
    cases a
    cases b
    simp_all

/-- **There is nothing in a URL besides the endpoint**, the user name and the password, the query
and the fragment. -/
theorem SameEndpoint.eq (h : u.SameEndpoint v) (hi : u.userinfo? = v.userinfo?)
    (hq : u.query = v.query) (hf : u.fragment = v.fragment) : u = v := by
  have ha : u.authority = v.authority := authority_eq_of_parts hi h.host h.port
  obtain ⟨hscheme, -, -, hpath⟩ := h
  cases u
  cases v
  simp_all

end Url

/-! ## 2. Sources -/

namespace SignatureCheck

variable {out : Surroundings} {c : SignatureCheck} {t t' : Token} {named named' : Url}
variable {source : KeySource} {s s' : State}

/-- **A token names an address that is accepted.** -/
structure Accepts (c : SignatureCheck) (t : Token) (named : Url) : Prop where
  service : c.service = .xsuaa
  header : ∃ address, t.header.get? "jku" = some (.string address) ∧
    Url.parse address = .ok named
  trusted : ∃ source, c.xsuaaSource t = .ok source

/-- An address of the kind that a token may name, below a trusted domain, is accepted. -/
theorem Accepts.of_parse {address : String} (hc : c.service = .xsuaa)
    (hheader : t.header.get? "jku" = some (.string address))
    (hparse : Url.parse address = .ok named) (hkind : isTokenKeysUrl named = true)
    (hwithin : isWithin c.trustedDomains named.withoutQuery = true) : c.Accepts t named := by
  have hjku : t.keySetUrl? = some address := Token.headerString?_eq_some_iff.mpr hheader
  refine ⟨hc, ⟨address, hheader, hparse⟩, ⟨named.withoutQuery, none⟩, ?_⟩
  simp [xsuaaSource, hjku, trustedUrl?, hparse, hkind, hwithin]

/-- The source of an address: the address without its query. -/
def sourceAt (named : Url) : KeySource :=
  ⟨{ named with query := none }, none⟩

/-- An accepted address is the place of the keys, without its query, and it has no fragment. -/
theorem Accepts.xsuaaSource_eq (h : c.Accepts t named) :
    c.xsuaaSource t = .ok (sourceAt named) ∧ named.fragment = none := by
  obtain ⟨-, ⟨address, hheader, hparse⟩, source, hsource⟩ := h
  have hjku : t.keySetUrl? = some address := Token.headerString?_eq_some_iff.mpr hheader
  simp only [xsuaaSource, hjku] at hsource ⊢
  cases htrusted : trustedUrl? c.trustedDomains address with
  | none => simp [htrusted] at hsource
  | some url =>
    obtain ⟨named', hparse', rfl, -, hfragment, -⟩ := trustedUrl?_eq_some_iff.mp htrusted
    obtain rfl : named = named' := Except.ok.inj (hparse.symm.trans hparse')
    exact ⟨rfl, hfragment⟩

/-- Looking for the source of an accepted address asks nobody. -/
theorem Accepts.run_source (h : c.Accepts t named) (out : Surroundings) (s : State) :
    (c.source t).run out s = (.ok (sourceAt named), s) := by
  rw [SignatureCheck.source, h.service]
  simp only [h.xsuaaSource_eq.1, run_ofExcept, mapError_ok]

/-- **The source of an address is its endpoint, with user name and password**, and nothing else. -/
theorem sourceAt_eq_iff (h : c.Accepts t named) (h' : c.Accepts t' named')
    (he : named.SameEndpoint named') :
    sourceAt named = sourceAt named' ↔ named.userinfo? = named'.userinfo? := by
  constructor
  · intro heq
    exact congrArg (fun source : KeySource => source.url.userinfo?) heq
  · intro hi
    have hendpoint : (sourceAt named).url.SameEndpoint (sourceAt named').url :=
      ⟨he.scheme, he.host, he.port, he.path⟩
    have hfragment : named.fragment = named'.fragment :=
      h.xsuaaSource_eq.2.trans h'.xsuaaSource_eq.2.symm
    have hurl : (sourceAt named).url = (sourceAt named').url :=
      hendpoint.eq hi rfl hfragment
    exact congrArg (fun url : Url => (⟨url, none⟩ : KeySource)) hurl

/-! ## 3. Runs of tokens with one source -/

/-- The state after a check of each of some tokens, one after another. -/
def afterChecks (out : Surroundings) (c : SignatureCheck) (s : State) (ts : List Token) : State :=
  s.after out (ts.map (.validate c))

theorem afterChecks_concat (ts : List Token) (t : Token) :
    c.afterChecks out s (ts ++ [t]) = (c.afterChecks out s ts).next out (.validate c t) := by
  rw [afterChecks, List.map_append, List.map_singleton, State.after_concat, afterChecks]

/-- A check of a token whose source is known without asking is a visit of that source. -/
theorem visiting_of_sourced (hs : ∀ s, (c.source t).run out s = (.ok source, s)) (s : State) :
    Visiting out source s (s.next out (.validate c t)) := by
  cases validating_next out c t s with
  | refused _ h =>
    rw [h]
    exact visiting_advance out source s 0
  | sourceless _ hs' => cases (hs s).symm.trans hs'
  | visited _ hs' hv =>
    cases (hs s).symm.trans hs'
    exact hv

/-- **What is asked and what is stored stays with one source.** -/
structure Focused (source : KeySource) (s s' : State) : Prop where
  requests : AsksOnly (· = source) s s'
  entries : ∀ p ∈ s'.keys.entries, p ∈ s.keys.entries ∨ p.1 = source

namespace Focused

theorem refl (source : KeySource) (s : State) : Focused source s s :=
  ⟨.of_requests_eq rfl, fun _ hp => Or.inl hp⟩

theorem trans {s₁ : State} (h : Focused source s s₁) (h' : Focused source s₁ s') :
    Focused source s s' := by
  refine ⟨h.requests.trans h'.requests, fun p hp => ?_⟩
  rcases h'.entries p hp with hold | hnew
  · exact h.entries p hold
  · exact Or.inr hnew

theorem of_visiting (h : Visiting out source s s') : Focused source s s' := by
  cases h with
  | spared hr hk => exact ⟨.of_requests_eq hr, fun _ hp => Or.inl (hk ▸ hp)⟩
  | failed _ hr hk => exact ⟨.of_requests_eq_concat rfl hr, fun _ hp => Or.inl (hk ▸ hp)⟩
  | undated _ hr _ _ _ hk =>
    exact ⟨.of_requests_eq_concat rfl hr, fun _ hp => Or.inl (hk ▸ hp)⟩
  | stored _ hr _ _ hk =>
    refine ⟨.of_requests_eq_concat rfl hr, fun p hp => ?_⟩
    rw [hk] at hp
    rcases KeyCache.mem_store hp with ⟨hold, -⟩ | rfl
    · exact Or.inl hold
    · exact Or.inr rfl

theorem afterChecks {ts : List Token}
    (hs : ∀ t ∈ ts, ∀ s, (c.source t).run out s = (.ok source, s)) (s : State) :
    Focused source s (c.afterChecks out s ts) := by
  induction ts using List.reverseRecOn with
  | nil => exact .refl source s
  | append_singleton ts t ih =>
    rw [afterChecks_concat]
    have hbefore := ih fun t' ht' => hs t' (List.mem_append_left _ ht')
    have hlast : t ∈ ts ++ [t] := List.mem_append_right _ List.mem_cons_self
    exact hbefore.trans (.of_visiting (visiting_of_sourced (hs t hlast) _))

end Focused

/-! ## 4. One request -/

/-- A set has what a token needs: its key, or anything, if the token names no key. -/
def Provides (keys : KeySet) (t : Token) : Prop :=
  ∀ alg, precheck t = .ok alg →
    (∃ k, keys.select alg t.keyId? = .ok k) ∨ ∀ i, t.header.get? "kid" ≠ some (.string i)

/-- **What is stored between two states would last for some tokens**: there is room for it, the
clock does not go back, the time to live is not over, and it can be told when it is.  The next
answer is a set that has what the tokens need. -/
structure Lasting (out : Surroundings) (source : KeySource) (ts : List Token) (s s' : State) :
    Prop where
  room : s.keys.Takes source (out.clock s.readings)
  clock : ∀ i j, i ≤ j → out.clock i ≤ out.clock j
  within : ∀ i, i < s'.readings → out.clock i < out.clock s.readings + s.keys.ttl
  told : ∀ i, i < s'.readings → s.keys.expiryTold (out.clock i) = true
  answer : ∃ report, keysIn (out.answer s.requests.length source) = .ok report ∧
    ∀ t ∈ ts, Provides report.keys t

/-- Nobody was asked between two states, or one request was made and its answer is stored, for
the time to live at least. -/
inductive Shared (out : Surroundings) (source : KeySource) (s s' : State) : Prop
  | unasked (hr : s'.requests = s.requests) (hk : s'.keys = s.keys)
  | stored {report : KeyDocument.Report} {e : KeyCache.Entry}
      (ha : keysIn (out.answer s.requests.length source) = .ok report)
      (hr : s'.requests = s.requests ++ [source]) (he : s'.keys.find? source = some e)
      (hkeys : e.held.keys = report.keys)
      (hend : out.clock s.readings + s.keys.ttl ≤ e.expiresAt)

/-- **The first request is the last one.**  What it has stored is enough for the tokens that come
after it. -/
theorem Shared.next {ts : List Token} {s₁ : State} (h : Shared out source s s₁) (ht : t ∈ ts)
    (hs : ∀ s, (c.source t).run out s = (.ok source, s))
    (hl : Lasting out source ts s (s₁.next out (.validate c t)))
    (hreadings : s.readings ≤ s₁.readings) :
    Shared out source s (s₁.next out (.validate c t)) := by
  obtain ⟨answered, hanswered, hprovides⟩ := hl.answer
  cases h with
  | unasked hr hk =>
    cases visiting_of_sourced hs s₁ with
    | spared hr' hk' => exact .unasked (hr'.trans hr) (hk'.trans hk)
    | failed ha =>
      rw [hr, hanswered] at ha
      exact nomatch ha
    | undated _ _ _ hi' ht =>
      rw [hk] at ht
      exact nomatch (hl.told _ hi').symm.trans ht
    | @stored report i ha hr' hi _ hk' =>
      rw [hr] at ha hr'
      rw [hk] at hk'
      have hmoment : out.clock s.readings ≤ out.clock i :=
        hl.clock _ _ (Nat.le_trans hreadings hi)
      have hfound : (s₁.next out (.validate c t)).keys.find? source =
          some ⟨⟨s.keys.nextSerial, report.keys⟩, out.clock i, out.clock i + s.keys.ttl⟩ := by
        rw [hk']
        exact KeyCache.find?_store_of_takes (hl.room.of_le hmoment) report.keys
      exact .stored ha hr' hfound rfl (Nat.add_le_add_right hmoment _)
  | @stored report e ha hr he hkeys hend =>
    cases hp : precheck t with
    | error =>
      rw [next_of_refused hp]
      exact .stored ha hr he hkeys hend
    | ok alg =>
      obtain rfl : answered = report := Except.ok.inj (hanswered.symm.trans ha)
      have hspared : Spared out c t s₁ source e := by
        rcases hprovides t ht alg hp with ⟨k, hk⟩ | hunnamed
        · exact .held hp (by rw [hkeys]; exact hk)
        · exact .unnamed hunnamed
      have henough : Suffices out c t s₁ source e :=
        ⟨by rw [hs], he, fun i _ hi => Nat.lt_of_lt_of_le (hl.within i hi) hend, hspared⟩
      obtain ⟨hr', hk'⟩ := henough.unasked hp (hs s₁)
      exact .stored ha (hr'.trans hr) (by rw [hk']; exact he) hkeys hend

theorem Lasting.mono {ts ts' : List Token} {s₁ : State} (h : Lasting out source ts s s')
    (ht : ts' ⊆ ts) (hr : s₁.readings ≤ s'.readings) : Lasting out source ts' s s₁ := by
  obtain ⟨report, hreport, hprovides⟩ := h.answer
  exact ⟨h.room, h.clock, fun i hi => h.within i (Nat.lt_of_lt_of_le hi hr),
    fun i hi => h.told i (Nat.lt_of_lt_of_le hi hr), report, hreport,
    fun t hm => hprovides t (ht hm)⟩

theorem Shared.afterChecks {ts : List Token}
    (hs : ∀ t ∈ ts, ∀ s, (c.source t).run out s = (.ok source, s))
    (hl : Lasting out source ts s (c.afterChecks out s ts)) :
    Shared out source s (c.afterChecks out s ts) := by
  induction ts using List.reverseRecOn with
  | nil => exact .unasked rfl rfl
  | append_singleton ts t ih =>
    rw [afterChecks_concat] at hl ⊢
    have hlast : t ∈ ts ++ [t] := List.mem_append_right _ List.mem_cons_self
    have hbefore : Lasting out source ts s (c.afterChecks out s ts) :=
      hl.mono (List.subset_append_left _ _) (State.precedes_next out _ _).readings
    have hshared := ih (fun t' ht' => hs t' (List.mem_append_left _ ht')) hbefore
    exact hshared.next hlast (hs t hlast) hl (State.precedes_after out s _).readings

/-! ## 5. One endpoint, one source -/

/-- **One endpoint has one source for each user name and password.**  With XSUAA, a token that names
an accepted address comes to the source with the scheme, host, port and path of the address, and
with its user name and password, but without query and fragment.  Another token of that endpoint
comes to the same source just if it names the same user name and password.

Any number of tokens that do so ask no other source, and leave no other entry behind than this one.
As long as that entry lasts they make one request at most. -/
theorem one_source_for_endpoint (out : Surroundings) (h : c.Accepts t named) :
    (∀ s, (c.source t).run out s = (.ok (sourceAt named), s)) ∧
    ((sourceAt named).url.SameEndpoint named ∧
      (sourceAt named).url.userinfo? = named.userinfo? ∧
      (sourceAt named).url.query = none ∧ (sourceAt named).url.fragment = none ∧
      (sourceAt named).tenant = none) ∧
    (∀ t' named' s, c.Accepts t' named' → named.SameEndpoint named' →
      (((c.source t).run out s).1 = ((c.source t').run out s).1 ↔
        named.userinfo? = named'.userinfo?)) ∧
    ∀ (ts : List Token) (s : State),
      (∀ t' ∈ ts, ∃ named', c.Accepts t' named' ∧ named.SameEndpoint named' ∧
        named.userinfo? = named'.userinfo?) →
      Focused (sourceAt named) s (c.afterChecks out s ts) ∧
        (Lasting out (sourceAt named) ts s (c.afterChecks out s ts) →
          (c.afterChecks out s ts).requests = s.requests ∨
            (c.afterChecks out s ts).requests = s.requests ++ [sourceAt named]) := by
  refine ⟨h.run_source out, ⟨⟨rfl, rfl, rfl, rfl⟩, rfl, rfl, h.xsuaaSource_eq.2, rfl⟩,
    fun t' named' s h' he => ?_, fun ts s hts => ?_⟩
  · rw [h.run_source, h'.run_source, ← sourceAt_eq_iff h h' he]
    constructor
    · intro heq
      exact Except.ok.inj heq
    · intro heq
      rw [heq]
  · have hsource : ∀ t' ∈ ts, ∀ s, (c.source t').run out s = (.ok (sourceAt named), s) := by
      intro t' ht' s
      obtain ⟨named', h', he, hi⟩ := hts t' ht'
      rw [h'.run_source, (sourceAt_eq_iff h h' he).mpr hi]
    refine ⟨.afterChecks hsource s, fun hl => ?_⟩
    cases Shared.afterChecks hsource hl with
    | unasked hr => exact Or.inl hr
    | stored _ hr => exact Or.inr hr

/-- Tokens name one endpoint, with a user name and with different queries, and no key.  The keys are
asked for once. -/
theorem one_source_for_endpoint_queries :
    let url (userinfo : String) (query : Option String) : Url :=
      ⟨"https", some ⟨userinfo, none, some (.domain "my.auth.com"), none⟩,
        .segments ["token_keys"], query, none⟩
    let c : SignatureCheck := ⟨.xsuaa, url "" none, url "" none, ["auth.com"]⟩
    let t (query : String) : Token := ⟨"a.b.AAE", 3, [("alg", .string "ES256"),
      ("jku", .string ("https://a@my.auth.com/token_keys?" ++ query))], [], [0, 1]⟩
    let out : Surroundings :=
      ⟨fun _ => 0, 0, fun _ _ => .body (Text.Utf8.bytes "\x7b\x22keys\x22:[]\x7d")⟩
    let ts : List Token := [t "q=1", t "q=2"]
    let s : State := c.afterChecks out {} ts
    let source : KeySource := ⟨url "a" none, none⟩
    c.Accepts (t "q=1") (url "a" "q=1") ∧ c.Accepts (t "q=2") (url "a" "q=2") ∧
      Lasting out source ts {} s ∧ (s.requests = [] ∨ s.requests = [source]) ∧
      s.requests.length = 1 := by
  intro url c t out ts s source
  have hfirst : c.Accepts (t "q=1") (url "a" "q=1") :=
    .of_parse rfl rfl (by decide +kernel) (by decide +kernel) (by decide +kernel)
  have hsecond : c.Accepts (t "q=2") (url "a" "q=2") :=
    .of_parse rfl rfl (by decide +kernel) (by decide +kernel) (by decide +kernel)
  have hnamed : ∀ t' ∈ ts, (∃ named', c.Accepts t' named' ∧
      (url "a" "q=1").SameEndpoint named' ∧ (url "a" "q=1").userinfo? = named'.userinfo?) ∧
      ∀ i, t'.header.get? "kid" ≠ some (.string i) := by
    intro t' ht'
    simp only [ts, List.mem_cons, List.not_mem_nil, or_false] at ht'
    rcases ht' with rfl | rfl
    · exact ⟨⟨_, hfirst, ⟨rfl, rfl, rfl, rfl⟩, rfl⟩, nofun⟩
    · exact ⟨⟨_, hsecond, ⟨rfl, rfl, rfl, rfl⟩, rfl⟩, nofun⟩
  have httl : out.clock 0 < out.clock 0 + ({} : State).keys.ttl := by decide +kernel
  have htold : ({} : State).keys.expiryTold (out.clock 0) = true := by decide +kernel
  have hlasting : Lasting out source ts {} s :=
    ⟨Or.inl (by decide), fun _ _ _ => Nat.le_refl 0, fun _ _ => httl, fun _ _ => htold, .empty,
      by decide +kernel,
      fun t' ht' _ _ => Or.inr (hnamed t' ht').2⟩
  obtain ⟨-, -, -, hrun⟩ := one_source_for_endpoint out hfirst
  have hone := (hrun ts {} fun t' ht' => (hnamed t' ht').1).2 hlasting
  exact ⟨hfirst, hsecond, hlasting, hone, by decide +kernel⟩

/-- **User name and password split an endpoint.**  Two tokens name one endpoint, one of them with a
user name.  They come to two sources, and each of them makes a request and takes an entry. -/
theorem userinfo_splits_endpoint :
    let url (userinfo : String) : Url :=
      ⟨"https", some ⟨userinfo, none, some (.domain "my.auth.com"), none⟩,
        .segments ["token_keys"], none, none⟩
    let c : SignatureCheck := ⟨.xsuaa, url "", url "", ["auth.com"]⟩
    let t (address : String) : Token :=
      ⟨"a.b.AAE", 3, [("alg", .string "ES256"), ("jku", .string address)], [], [0, 1]⟩
    let out : Surroundings :=
      ⟨fun _ => 0, 0, fun _ _ => .body (Text.Utf8.bytes "\x7b\x22keys\x22:[]\x7d")⟩
    let plain := t "https://my.auth.com/token_keys"
    let secret := t "https://a@my.auth.com/token_keys"
    let s := c.afterChecks out {} [plain, secret]
    c.Accepts plain (url "") ∧ c.Accepts secret (url "a") ∧
      (url "").SameEndpoint (url "a") ∧
      ((c.source plain).run out {}).1 = .ok ⟨url "", none⟩ ∧
      ((c.source secret).run out {}).1 = .ok ⟨url "a", none⟩ ∧
      s.requests = [⟨url "", none⟩, ⟨url "a", none⟩] ∧ s.keys.size = 2 := by
  intro url c t out plain secret s
  have hplain : c.Accepts plain (url "") :=
    .of_parse rfl rfl (by decide +kernel) (by decide +kernel) (by decide +kernel)
  have hsecret : c.Accepts secret (url "a") :=
    .of_parse rfl rfl (by decide +kernel) (by decide +kernel) (by decide +kernel)
  refine ⟨hplain, hsecret, ⟨rfl, rfl, rfl, rfl⟩, ?_, ?_, ?_⟩
  · rw [hplain.run_source]
    rfl
  · rw [hsecret.run_source]
    rfl
  · decide +kernel

end SignatureCheck
end TokenTrust

/-
# What a check asks for

A token comes from anybody, so what a check of its signature costs has to be bounded whatever the
token is.  It asks for the discovery document once at most, and not at all with XSUAA, and it asks
for keys once at most.

There are two ways to ask for keys, getting and refreshing, and a check may take both.  Each of them
is a visit of the source (`Visiting`), which leaves everything as it is or makes one request.  A
check takes the second way only if the first one found its set in the cache, that is, has asked
nobody, so that both together are one visit still (`SignatureCheck.Finding.visiting`).

Most checks ask nobody.  If the set that is stored may be used, a request for keys needs a token
that names a key which that set does not hold, and an entry that is not too young to be fetched
again (`SignatureCheck.Suffices`).
-/
import TokenTrust.Proofs.RateLimit
import TokenTrust.Proofs.Token

namespace TokenTrust

open TokenTrust.Action TokenTrust.Retrieval

variable {out : Surroundings} {source : KeySource} {s s₀ s' : State}

/-! ## 1. Visits -/

namespace Retrieval

/-- **What a retrieval of keys does at a source.**  It asks the source once, and stores what it is
answered with if that is a set and can be told when it expires; or it asks nobody, and both caches
stay as they are. -/
inductive Visiting (out : Surroundings) (source : KeySource) (s s' : State) : Prop
  | spared (hrequests : s'.requests = s.requests) (hkeys : s'.keys = s.keys)
      (hdiscovery : s'.discovery = s.discovery)
  | failed {f : Failure}
      (hanswer : keysIn (out.answer s.requests.length source) = .error f)
      (hrequests : s'.requests = s.requests ++ [source]) (hkeys : s'.keys = s.keys)
      (hdiscovery : s'.discovery = s.discovery)
  | undated {report : KeyDocument.Report} {i : Nat}
      (hanswer : keysIn (out.answer s.requests.length source) = .ok report)
      (hrequests : s'.requests = s.requests ++ [source])
      (hafter : s.readings ≤ i) (hbefore : i < s'.readings)
      (htold : s.keys.expiryTold (out.clock i) = false) (hkeys : s'.keys = s.keys)
      (hdiscovery : s'.discovery = s.discovery)
  | stored {report : KeyDocument.Report} {i : Nat}
      (hanswer : keysIn (out.answer s.requests.length source) = .ok report)
      (hrequests : s'.requests = s.requests ++ [source])
      (hafter : s.readings ≤ i) (hbefore : i < s'.readings)
      (hkeys : s'.keys = (s.keys.store source report.keys (out.clock i)).2)
      (hdiscovery : s'.discovery = s.discovery)

namespace Visiting

/-- A visit may begin with anything that asks nobody and stores nothing. -/
theorem of_start (h : Visiting out source s s') (hreadings : s₀.readings ≤ s.readings)
    (hrequests : s.requests = s₀.requests) (hkeys : s.keys = s₀.keys)
    (hdiscovery : s.discovery = s₀.discovery) : Visiting out source s₀ s' := by
  cases h with
  | spared hr hk hd =>
    exact .spared (hr.trans hrequests) (hk.trans hkeys) (hd.trans hdiscovery)
  | failed ha hr hk hd =>
    rw [hrequests] at ha hr
    exact .failed ha hr (hk.trans hkeys) (hd.trans hdiscovery)
  | undated ha hr hi hi' ht hk hd =>
    rw [hrequests] at ha hr
    rw [hkeys] at ht hk
    exact .undated ha hr (Nat.le_trans hreadings hi) hi' ht hk (hd.trans hdiscovery)
  | stored ha hr hi hi' hk hd =>
    rw [hrequests] at ha hr
    rw [hkeys] at hk
    exact .stored ha hr (Nat.le_trans hreadings hi) hi' hk (hd.trans hdiscovery)

/-- **A visit makes one request at most.** -/
theorem requests_eq (h : Visiting out source s s') :
    s'.requests = s.requests ∨ s'.requests = s.requests ++ [source] := by
  cases h with
  | spared hr => exact Or.inl hr
  | failed _ hr => exact Or.inr hr
  | undated _ hr => exact Or.inr hr
  | stored _ hr => exact Or.inr hr

/-- **Who asks nobody stores nothing.** -/
theorem keys_eq (h : Visiting out source s s') (hr : s'.requests = s.requests) :
    s'.keys = s.keys := by
  cases h with
  | spared _ hk => exact hk
  | failed _ _ hk => exact hk
  | undated _ _ _ _ _ hk => exact hk
  | stored _ hr' => exact absurd (hr'.symm.trans hr) (by simp)

theorem discovery_eq (h : Visiting out source s s') : s'.discovery = s.discovery := by
  cases h with
  | spared _ _ hd => exact hd
  | failed _ _ _ hd => exact hd
  | undated _ _ _ _ _ _ hd => exact hd
  | stored _ _ _ _ _ hd => exact hd

end Visiting

theorem Fetching.visiting {r : Except Failure HeldKeys} (h : Fetching out source s r s') :
    Visiting out source s s' := by
  have hr := h.requests_eq
  cases h with
  | crashed ha => exact .failed ha hr rfl rfl
  | failed ha => exact .failed ha hr rfl rfl
  | undated ha ht => exact .undated ha hr (Nat.le_refl _) (Nat.lt_succ_self _) ht rfl rfl
  | stored ha => exact .stored ha hr (Nat.le_refl _) (Nat.lt_succ_self _) rfl rfl

theorem visiting_advance (out : Surroundings) (source : KeySource) (s : State) (n : Nat) :
    Visiting out source s (s.advance n) :=
  .spared rfl rfl rfl

theorem Fetching.visiting_of_advance {r : Except Failure HeldKeys} {n : Nat}
    (h : Fetching out source (s.advance n) r s') : Visiting out source s s' :=
  h.visiting.of_start (Nat.le_add_right _ _) rfl rfl rfl

theorem Getting.visiting {r : Except Failure (HeldKeys × Origin)}
    (h : Getting out source s r s') : Visiting out source s s' := by
  cases h with
  | first => exact visiting_advance out source s 1
  | second => exact visiting_advance out source s 2
  | fetched _ _ hf => exact hf.visiting_of_advance
  | failed _ _ hf => exact hf.visiting_of_advance

theorem Refreshing.visiting {r : Except Failure HeldKeys} (h : Refreshing out source s r s') :
    Visiting out source s s' := by
  cases h with
  | untold => exact visiting_advance out source s 1
  | limited => exact .spared (State.logging_requests _ _) rfl rfl
  | waited => exact visiting_advance out source s 3
  | fetched _ _ hf => exact hf.visiting_of_advance

/-- A set that may be used at the first look is the one that is got. -/
theorem Getting.of_live {r : Except Failure (HeldKeys × Origin)} {held : HeldKeys}
    (h : Getting out source s r s')
    (hl : s.keys.live? source (out.clock s.readings) = some held) :
    r = .ok (held, .cache) ∧ s' = s.advance 1 := by
  cases h with
  | first h =>
    rw [hl] at h
    cases h
    exact ⟨rfl, rfl⟩
  | second h => rw [hl] at h; exact nomatch h
  | fetched h => rw [hl] at h; exact nomatch h
  | failed h => rw [hl] at h; exact nomatch h

/-- Getting reads the clock before it does anything else. -/
theorem Getting.readings_lt {r : Except Failure (HeldKeys × Origin)}
    (h : Getting out source s r s') : s.readings < s'.readings := by
  have fetched {q : Except Failure HeldKeys} (hf : Fetching out source (s.advance 2) q s') :
      s.readings < s'.readings :=
    Nat.lt_of_lt_of_le (Nat.lt_add_of_pos_right Nat.two_pos)
      ((kept_precedes out).fetching trivial hf).readings
  cases h with
  | first => exact Nat.lt_succ_self _
  | second => exact Nat.lt_add_of_pos_right Nat.two_pos
  | fetched _ _ hf => exact fetched hf
  | failed _ _ hf => exact fetched hf

/-- Where it cannot be told whether a set is recent, a refresh crashes at once. -/
theorem Refreshing.of_untold {r : Except Failure HeldKeys} (h : Refreshing out source s r s')
    (ht : s.keys.intervalTold source = false) : r = .error .crash ∧ s' = s.advance 1 := by
  cases h with
  | untold => exact ⟨rfl, rfl⟩
  | limited _ ht' => exact nomatch ht.symm.trans ht'
  | waited _ _ ht' => exact nomatch ht.symm.trans ht'
  | fetched _ _ _ ht' => exact nomatch ht.symm.trans ht'

/-- Otherwise it reads the clock twice before it does anything else. -/
theorem Refreshing.readings_lt {r : Except Failure HeldKeys} (h : Refreshing out source s r s')
    (ht : s.keys.intervalTold source = true) : s.readings + 1 < s'.readings := by
  cases h with
  | untold ht' => exact nomatch ht.symm.trans ht'
  | limited => exact Nat.lt_succ_self _
  | waited => exact Nat.lt_add_of_pos_right Nat.two_pos
  | fetched _ _ hf =>
    exact Nat.lt_of_lt_of_le (Nat.lt_add_of_pos_right Nat.two_pos)
      ((kept_precedes out).fetching trivial hf).readings

/-- Looking for a discovery document asks for it or asks nobody. -/
theorem Discovering.requests_eq {url : Url} {r : Except Failure Discovery}
    (h : Discovering out url s r s') :
    s'.requests = s.requests ∨ s'.requests = s.requests ++ [⟨url, none⟩] := by
  cases h with
  | locked => exact Or.inl rfl
  | found => exact Or.inl rfl
  | failed => exact Or.inr (by simp)
  | undated => exact Or.inr (by simp)
  | stored => exact Or.inr (by simp)

theorem Discovering.keys_eq {url : Url} {r : Except Failure Discovery}
    (h : Discovering out url s r s') : s'.keys = s.keys := by
  cases h <;> rfl

end Retrieval

namespace SignatureCheck

variable {c : SignatureCheck} {t : Token} {alg : Algorithm} {s₁ s₂ : State}

/-- **Getting and refreshing together are one visit**: what is refreshed was found in the cache. -/
theorem Finding.visiting {id : Option String} {r : Except Failure KeySet}
    (h : Finding out source alg id s r s') : Visiting out source s s' := by
  cases h with
  | ungot hg => exact (getting_of_run hg).visiting
  | found hg => exact (getting_of_run hg).visiting
  | missing hg => exact (getting_of_run hg).visiting
  | refreshed hg _ _ hr =>
    obtain ⟨-, n, rfl⟩ := (getting_of_run hg).of_cache
    refine (refreshing_of_run hr).visiting.of_start (Nat.le_add_right _ _) ?_ rfl rfl
    exact State.logging_requests _ _

/-- Looking for the source of the keys leaves the keys alone. -/
theorem Sourcing.keys_eq {r : Except Failure KeySource} (h : Sourcing out c t s r s') :
    s'.keys = s.keys := by
  cases h with
  | xsuaa => rfl
  | ias _ hd => exact (discovering_of_run hd).keys_eq

/-! ## 2. The requests of a check -/

/-- **The requests of a check, by what they are for.**  A check asks for `documents` while it looks
for the source of the keys, and for `keys` once it knows the source.  A token that is refused at
once is worth neither. -/
inductive Spending (out : Surroundings) (c : SignatureCheck) (t : Token) (s : State) :
    List KeySource → List KeySource → Prop
  | refused {e : Error} (hp : precheck t = .error e)
      (hs : s.next out (.validate c t) = s) : Spending out c t s [] []
  | asking {alg : Algorithm} {documents keys : List KeySource} (hp : precheck t = .ok alg)
      (hd : ((c.source t).run out s).2.requests = s.requests ++ documents)
      (hk : (s.next out (.validate c t)).requests =
        ((c.source t).run out s).2.requests ++ keys) : Spending out c t s documents keys

/-- Looking for the source asks for the discovery document of IAS, or asks nobody. -/
theorem Sourcing.exists_documents {r : Except Failure KeySource} (h : Sourcing out c t s r s') :
    ∃ documents, s'.requests = s.requests ++ documents ∧
      (documents = [] ∨ c.service = .ias ∧ documents = [⟨c.discoveryUrl, none⟩]) := by
  cases h with
  | xsuaa => exact ⟨[], (List.append_nil _).symm, Or.inl rfl⟩
  | ias hc hd =>
    rcases (discovering_of_run hd).requests_eq with hr | hr
    · exact ⟨[], by rw [hr, List.append_nil], Or.inl rfl⟩
    · exact ⟨_, hr, Or.inr ⟨hc, rfl⟩⟩

/-- Once the source is known, a check asks it, or asks nobody. -/
theorem visiting_next (hp : precheck t = .ok alg)
    (hs : (c.source t).run out s = (.ok source, s₁)) :
    Visiting out source s₁ (s.next out (.validate c t)) := by
  rw [State.next_validate, run_check_snd hp hs]
  exact (finding_run out source alg t.keyId? s₁).visiting

/-- A token that is refused at once leaves everything as it was. -/
theorem next_of_refused {e : Error} (hp : precheck t = .error e) :
    s.next out (.validate c t) = s := by
  rw [State.next_validate, check, run_bind, run_ofExcept, hp]
  rfl

/-- Where no source is found, nothing comes after looking for it. -/
theorem next_of_sourceless {f : Failure} (hp : precheck t = .ok alg)
    (hs : (c.source t).run out s = (.error f, s₁)) : s.next out (.validate c t) = s₁ := by
  rw [State.next_validate, check, run_bind, run_ofExcept, hp]
  simp only [mapError_ok, run_bind, hs]

/-- **What a check does to the state**: nothing, or it looks for the source, and visits the source
if it finds one. -/
inductive Validating (out : Surroundings) (c : SignatureCheck) (t : Token) (s s' : State) : Prop
  | refused {e : Error} (hp : precheck t = .error e) (h : s' = s)
  | sourceless {alg : Algorithm} {f : Failure} (hp : precheck t = .ok alg)
      (hs : (c.source t).run out s = (.error f, s'))
  | visited {alg : Algorithm} {source : KeySource} {s₁ : State} (hp : precheck t = .ok alg)
      (hs : (c.source t).run out s = (.ok source, s₁)) (hv : Visiting out source s₁ s')

theorem validating_next (out : Surroundings) (c : SignatureCheck) (t : Token) (s : State) :
    Validating out c t s (s.next out (.validate c t)) := by
  cases hp : precheck t with
  | error e => exact .refused hp (next_of_refused hp)
  | ok alg =>
    cases hs : (c.source t).run out s with
    | mk q s₁ =>
      cases q with
      | error f => exact .sourceless hp (by rw [hs, next_of_sourceless hp hs])
      | ok source => exact .visited hp hs (visiting_next hp hs)

/-! ## 3. Checks that ask nobody for keys -/

/-- Why a stored set is not fetched again for a token. -/
inductive Spared (out : Surroundings) (c : SignatureCheck) (t : Token) (s : State)
    (source : KeySource) (e : KeyCache.Entry) : Prop
  /-- The set holds the key of the token. -/
  | held {alg : Algorithm} {k : Key} (hp : precheck t = .ok alg)
      (hk : e.held.keys.select alg t.keyId? = .ok k)
  /-- The token names no key. -/
  | unnamed (hi : ∀ i, t.header.get? "kid" ≠ some (.string i))
  /-- The set is too young: when a refresh is requested, less than the least interval has passed
  since the set was stored. -/
  | recent (hr : ∀ b, Operation.Refreshes out s (.validate c t) source b →
      out.clock b.readings < e.storedAt + s.keys.minRefresh)

/-- **A stored set is enough for a token**: it is the one of its source, it may be used until the
check ends, and there is a reason not to fetch it again. -/
structure Suffices (out : Surroundings) (c : SignatureCheck) (t : Token) (s : State)
    (source : KeySource) (e : KeyCache.Entry) : Prop where
  sourced : ((c.source t).run out s).1 = .ok source
  found : s.keys.find? source = some e
  live : ∀ i, s.readings ≤ i → i < (s.next out (.validate c t)).readings →
    out.clock i < e.expiresAt
  spared : Spared out c t s source e

/-- A check that knows the source reads the clock before it does anything else. -/
theorem Finding.readings_lt {id : Option String} {r : Except Failure KeySet}
    (h : Finding out source alg id s r s') : s.readings < s'.readings := by
  cases h with
  | ungot hg => exact (getting_of_run hg).readings_lt
  | found hg => exact (getting_of_run hg).readings_lt
  | missing hg => exact (getting_of_run hg).readings_lt
  | refreshed hg _ _ hr =>
    exact Nat.lt_of_lt_of_le (getting_of_run hg).readings_lt
      ((kept_precedes out).refreshing trivial (refreshing_of_run hr)).readings

/-- **Where a stored set is enough, nobody is asked for keys**, and none are stored. -/
theorem Suffices.unasked {e : KeyCache.Entry} (h : Suffices out c t s source e)
    (hp : precheck t = .ok alg) (hs : (c.source t).run out s = (.ok source, s₁)) :
    (s.next out (.validate c t)).requests = s₁.requests ∧
      (s.next out (.validate c t)).keys = s₁.keys := by
  obtain ⟨-, hfound, hlive, hspared⟩ := h
  have hkeys : s₁.keys = s.keys := (sourcing_of_run hs).keys_eq
  have hsince : s.readings ≤ s₁.readings :=
    (kept_sourcing (kept_precedes out) (fun _ => trivial) (sourcing_of_run hs)).readings
  rw [State.next_validate, run_check_snd hp hs] at hlive ⊢
  cases hrun : (keysFor source alg t.keyId?).run out s₁ with
  | mk q s' =>
    rw [hrun] at hlive
    have hfinding := finding_of_run hrun
    have hlook : s₁.keys.live? source (out.clock s₁.readings) = some e.held := by
      rw [hkeys]
      exact KeyCache.live?_eq_some_iff.mpr ⟨e, hfound, hlive _ hsince hfinding.readings_lt, rfl⟩
    cases hfinding with
    | ungot hg => exact nomatch ((getting_of_run hg).of_live hlook).1
    | found hg =>
      obtain ⟨-, rfl⟩ := (getting_of_run hg).of_live hlook
      exact ⟨rfl, rfl⟩
    | missing hg =>
      obtain ⟨-, rfl⟩ := (getting_of_run hg).of_live hlook
      exact ⟨rfl, rfl⟩
    | @refreshed held _ i _ _ _ hg hk hi hr =>
      obtain ⟨hheld, rfl⟩ := (getting_of_run hg).of_live hlook
      obtain rfl : held = e.held := by simpa using hheld
      cases hspared with
      | held hp' hk' =>
        obtain rfl := Except.ok.inj (hp.symm.trans hp')
        exact nomatch hk.symm.trans hk'
      | unnamed hnone => exact absurd (Token.headerString?_eq_some_iff.mp hi) (hnone i)
      | recent hyoung =>
        have hrefresh := refreshing_of_run hr
        have hrequests : s'.requests = s₁.requests := by
          cases htold : s₁.keys.intervalTold source with
          | false =>
            obtain ⟨-, rfl⟩ := hrefresh.of_untold htold
            exact State.logging_requests _ _
          | true =>
            have hsoon : out.clock (s₁.readings + 1) < e.storedAt + s.keys.minRefresh :=
              hyoung _ (.unknownKey hp hs hg hk hi)
            have hend : out.clock (s₁.readings + 2) < e.expiresAt :=
              hlive _ (Nat.le_add_right_of_le hsince) (hrefresh.readings_lt htold)
            have hrecent : s₁.keys.recent? source (out.clock (s₁.readings + 1))
                (out.clock (s₁.readings + 2)) = some e.held := by
              rw [hkeys]
              exact KeyCache.recent?_eq_some_iff.mpr ⟨e, hfound, hsoon, hend, rfl⟩
            have hlimited := (hrefresh.limited_of_recent hrecent).1
            rwa [State.logging_requests] at hlimited
        exact ⟨hrequests,
          hrefresh.visiting.keys_eq (by rw [hrequests, State.logging_requests]; rfl)⟩

/-! ## 4. The budget -/

/-- Where getting has asked for keys, it is the last thing that a check does. -/
theorem next_eq_of_asked {r : Except Failure (HeldKeys × Origin)} (hp : precheck t = .ok alg)
    (hs : (c.source t).run out s = (.ok source, s₁))
    (hg : (getKeys source).run out s₁ = (r, s₂)) (hasked : s₂.requests ≠ s₁.requests) :
    s.next out (.validate c t) = s₂ := by
  rw [State.next_validate, run_check_snd hp hs]
  cases hrun : (keysFor source alg t.keyId?).run out s₁ with
  | mk q s' =>
    cases finding_of_run hrun with
    | ungot hg' => exact (Prod.mk.inj (hg'.symm.trans hg)).2
    | found hg' => exact (Prod.mk.inj (hg'.symm.trans hg)).2
    | missing hg' => exact (Prod.mk.inj (hg'.symm.trans hg)).2
    | refreshed hg' =>
      -- a set that was found in the cache was not asked for
      obtain ⟨-, n, hn⟩ := (getting_of_run hg').of_cache
      obtain ⟨-, rfl⟩ := Prod.mk.inj (hg'.symm.trans hg)
      exact absurd (by rw [hn, State.advance_requests]) hasked

/-- **Checks keep within a budget.**  Whatever is stored, whatever the network answers and whatever
the token is, a check asks for the discovery document once at most, and only with IAS, and for keys
once at most, at the source of the token.

* It asks for no keys if the set that is stored for the source is enough.
* It never refreshes a set that it has asked for itself: where getting the keys has made a request,
  the check ends, and does not so much as look at the clock again. -/
theorem requests_within_budget (out : Surroundings) (c : SignatureCheck) (t : Token) (s : State) :
    ∃ documents keys, Spending out c t s documents keys ∧
      (documents = [] ∨ c.service = .ias ∧ documents = [⟨c.discoveryUrl, none⟩]) ∧
      (keys = [] ∨ ∃ source, ((c.source t).run out s).1 = .ok source ∧ keys = [source]) ∧
      (∀ source e, Suffices out c t s source e → keys = []) ∧
      ∀ alg source s₁ r s₂, precheck t = .ok alg → (c.source t).run out s = (.ok source, s₁) →
        (getKeys source).run out s₁ = (r, s₂) → s₂.requests ≠ s₁.requests →
        s.next out (.validate c t) = s₂ := by
  have hlast : ∀ alg source s₁ r s₂, precheck t = .ok alg →
      (c.source t).run out s = (.ok source, s₁) → (getKeys source).run out s₁ = (r, s₂) →
      s₂.requests ≠ s₁.requests → s.next out (.validate c t) = s₂ :=
    fun _ _ _ _ _ hp hs hg hasked => next_eq_of_asked hp hs hg hasked
  cases validating_next out c t s with
  | refused hp h =>
    exact ⟨[], [], .refused hp h, Or.inl rfl, Or.inl rfl, fun _ _ _ => rfl, hlast⟩
  | sourceless hp hs =>
    obtain ⟨documents, hd, hdocuments⟩ := (sourcing_of_run hs).exists_documents
    have hspent : Spending out c t s documents [] :=
      .asking hp (by rw [hs]; exact hd) (by rw [hs, List.append_nil])
    exact ⟨documents, [], hspent, hdocuments, Or.inl rfl, fun _ _ _ => rfl, hlast⟩
  | @visited alg source s₁ hp hs hv =>
    obtain ⟨documents, hd, hdocuments⟩ := (sourcing_of_run hs).exists_documents
    have spent (keys : List KeySource)
        (hk : (s.next out (.validate c t)).requests = s₁.requests ++ keys) :
        Spending out c t s documents keys :=
      .asking hp (by rw [hs]; exact hd) (by rw [hs]; exact hk)
    rcases hv.requests_eq with hk | hk
    · exact ⟨documents, [], spent [] (by rw [hk, List.append_nil]), hdocuments, Or.inl rfl,
        fun _ _ _ => rfl, hlast⟩
    · refine ⟨documents, [source], spent [source] hk, hdocuments,
        Or.inr ⟨source, by rw [hs], rfl⟩, fun source' e henough => ?_, hlast⟩
      obtain rfl : source' = source := by simpa [hs] using henough.sourced.symm
      exact absurd ((henough.unasked hp hs).1.symm.trans hk) (by simp)

/-- A check of IAS asks for the discovery document, and comes to a source for which a set was stored
a moment ago.  The token names a key that is not in it, and the set is not fetched again. -/
theorem requests_within_budget_unknown_key :
    let url (path : String) : Url := ⟨"https", some ⟨"", none, some (.domain "my.auth.com"), none⟩,
      .segments [path], none, none⟩
    let c : SignatureCheck := ⟨.ias, url "token_keys", url "discovery", []⟩
    let t : Token :=
      ⟨"a.b.AAE", 3, [("alg", .string "ES256"), ("kid", .string "k")], [], [0, 1]⟩
    let out : Surroundings := ⟨fun _ => 0, 0, fun _ _ =>
      .body (Text.Utf8.bytes "\x7b\x22jwks_uri\x22:\x22https://my.auth.com/keys\x22\x7d")⟩
    let s : State := State.next out {} (.configure (.preloaded ⟨url "keys", none⟩ .empty))
    let e : KeyCache.Entry := ⟨⟨0, .empty⟩, 0, Duration.ofSeconds 600⟩
    Suffices out c t s ⟨url "keys", none⟩ e ∧
      (∃ documents keys, Spending out c t s documents keys ∧ keys = []) ∧
      (s.next out (.validate c t)).requests = [⟨url "discovery", none⟩] := by
  intro url c t out s e
  have hlive : 0 < e.expiresAt := by decide +kernel
  have hyoung : 0 < e.storedAt + s.keys.minRefresh := by decide +kernel
  have henough : Suffices out c t s ⟨url "keys", none⟩ e :=
    ⟨by decide +kernel, by decide +kernel, fun _ _ _ => hlive, .recent fun _ _ => hyoung⟩
  obtain ⟨documents, keys, hspending, -, -, hkeys, -⟩ := requests_within_budget out c t s
  exact ⟨henough, ⟨documents, keys, hspending, hkeys _ e henough⟩, by decide +kernel⟩

end SignatureCheck
end TokenTrust

/-
# When keys are rotated

An identity service that rotates its keys signs tokens with a key that is not in the set that was
stored before.  A check that comes to such a token knows a live set without the key, which is old
enough to be fetched again (`Outdated`).  It then asks the source for its keys, once, and the answer
decides (`rotated_keys_are_fetched`): the token is judged with the new set alone, and the new set
takes the place of the old one; if there is no new set, the failure is reported and the old one
stays.

A set of which it cannot be told when it expires is no answer either: the fetch crashes, and the old
set stays.

That the new set is used at all rests on its number.  A refresh may also return the set that is
there, and the check tells the two apart by their numbers, not by what is in them; a set that has
just been stored has a number that no set had before (`Exchanging.run_keysFor`).
-/
import TokenTrust.Proofs.Acceptance
import TokenTrust.Proofs.Budget
import TokenTrust.Proofs.Failure
import TokenTrust.Proofs.Room

namespace TokenTrust

open TokenTrust.Action TokenTrust.Retrieval

variable {out : Surroundings} {s s' : State} {source : KeySource}

/-! ## 1. Keys that are not there -/

/-- A set either has the key of an id or reports that id as unknown. -/
theorem KeySet.select_eq_error {keys : KeySet} {alg : Algorithm} {id : String}
    (h : ∀ k, keys.select alg (some id) ≠ .ok k) :
    keys.select alg (some id) = .error (.noMatchingKey ((NoKey.unknown id).message alg)) := by
  rw [select, pick] at h ⊢
  cases hk : keys.supporting? alg (some id) with
  | none => rfl
  | some k => exact absurd (by rw [hk]; rfl) (h k)

/-! ## 2. Refreshes that are due -/

namespace Retrieval

/-- An entry that is old enough keeps nobody from fetching. -/
theorem recent?_eq_none_of_due {c : KeyCache} {e : KeyCache.Entry} {requestedAt : Instant}
    (he : c.find? source = some e) (hdue : e.storedAt + c.minRefresh ≤ requestedAt)
    (now : Instant) : c.recent? source requestedAt now = none := by
  rw [Option.eq_none_iff_forall_ne_some]
  intro held hheld
  obtain ⟨e', he', hsoon, -⟩ := KeyCache.recent?_eq_some_iff.mp hheld
  obtain rfl := Option.some.inj (he.symm.trans he')
  exact absurd hsoon (Nat.not_lt.mpr hdue)

/-- An interval that is over ended at a moment that can be told. -/
theorem intervalTold_of_due {c : KeyCache} {e : KeyCache.Entry}
    {now : Instant} (he : c.find? source = some e) (hdue : e.storedAt + c.minRefresh ≤ now)
    (hnow : now ≤ Instant.last) : c.intervalTold source = true := by
  rw [KeyCache.intervalTold_of_find? he]
  exact Instant.reaches_iff.mpr (Nat.le_trans hdue hnow)

/-- **A refresh that is due fetches.** -/
theorem Refreshing.of_due {r : Except Failure HeldKeys} {e : KeyCache.Entry}
    (h : Refreshing out source s r s') (he : s.keys.find? source = some e)
    (hdue : e.storedAt + s.keys.minRefresh ≤ out.clock s.readings)
    (hshown : out.clock s.readings ≤ Instant.last) :
    Fetching out source (s.advance 3) r s' := by
  have hnone := recent?_eq_none_of_due he hdue
  cases h with
  | untold ht => exact nomatch ht.symm.trans (intervalTold_of_due he hdue hshown)
  | limited hfound => rw [hnone] at hfound; exact nomatch hfound
  | waited _ hfound => rw [hnone] at hfound; exact nomatch hfound
  | fetched _ _ hf => exact hf

/-- A fetch that is answered with a key set stores it, at the moment that the clock shows then, if
it can be told when it expires. -/
theorem Fetching.of_report {r : Except Failure HeldKeys} (h : Fetching out source s r s')
    {report : KeyDocument.Report}
    (hreport : keysIn (out.answer s.requests.length source) = .ok report) :
    (s.keys.expiryTold (out.clock s.readings) = true →
      r = .ok ⟨s.keys.nextSerial, report.keys⟩ ∧
        s'.keys = (s.keys.store source report.keys (out.clock s.readings)).2) ∧
    (s.keys.expiryTold (out.clock s.readings) = false → r = .error .crash ∧ s'.keys = s.keys) := by
  cases h with
  | crashed h => exact nomatch h.symm.trans hreport
  | failed h => exact nomatch h.symm.trans hreport
  | undated _ hd => exact ⟨fun htold => (nomatch hd.symm.trans htold), fun _ => ⟨rfl, rfl⟩⟩
  | stored h hd =>
    obtain rfl := Except.ok.inj (h.symm.trans hreport)
    exact ⟨fun _ => ⟨rfl, rfl⟩, fun hfalse => nomatch hd.symm.trans hfalse⟩

end Retrieval

namespace SignatureCheck

variable {c : SignatureCheck} {t : Token} {alg : Algorithm} {id : String} {e : KeyCache.Entry}

/-! ## 3. The exchange of a set -/

/-- **The stored set of a source has to be exchanged**: it may be used when it is looked for, it has
no key for the token, and it is old enough when a refresh is requested.  The clock can tell the
moment that it shows then, as it always can. -/
structure Exchanging (out : Surroundings) (s : State) (source : KeySource) (alg : Algorithm)
    (id : String) (e : KeyCache.Entry) : Prop where
  found : s.keys.find? source = some e
  live : out.clock s.readings < e.expiresAt
  lacking : ∀ k, e.held.keys.select alg (some id) ≠ .ok k
  due : e.storedAt + s.keys.minRefresh ≤ out.clock (s.readings + 1)
  shown : out.clock (s.readings + 1) ≤ Instant.last

/-- The state in which the set is fetched again: the clock was read once for the look at the cache
and three times for the refresh, and a line says why. -/
def exchangeState (s : State) (source : KeySource) (id : String) : State :=
  ((s.advance 1).logging [unknownLine source id]).advance 3

/-- **The set is exchanged for what is fetched.** -/
theorem Exchanging.run_keysFor (h : Exchanging out s source alg id e) :
    ∃ r s', Fetching out source (exchangeState s source id) r s' ∧
      (keysFor source alg (some id)).run out s = (r.map (·.keys), s') := by
  have hlook : s.keys.live? source (out.clock s.readings) = some e.held :=
    KeyCache.live?_eq_some_iff.mpr ⟨e, h.found, h.live, rfl⟩
  cases hrun : (keysFor source alg (some id)).run out s with
  | mk q s' =>
    cases finding_of_run hrun with
    | ungot hg => exact nomatch ((getting_of_run hg).of_live hlook).1
    | found hg hk =>
      obtain ⟨hheld, -⟩ := (getting_of_run hg).of_live hlook
      cases hheld
      exact absurd hk (h.lacking _)
    | missing hg _ ho =>
      obtain ⟨hheld, -⟩ := (getting_of_run hg).of_live hlook
      cases hheld
      exact absurd ho (by simp)
    | @refreshed held _ i r _ _ hg hk hi hr =>
      obtain ⟨hheld, rfl⟩ := (getting_of_run hg).of_live hlook
      obtain rfl : held = e.held := by simpa using hheld
      obtain rfl := Option.some.inj hi
      have hfetch := (refreshing_of_run hr).of_due h.found h.due h.shown
      refine ⟨r, s', hfetch, ?_⟩
      cases r with
      | error f => rfl
      | ok new =>
        -- what has just been stored has a number of its own
        obtain ⟨report, -, rfl⟩ := hfetch.held_eq
        have hnumber : e.held.serial < s.keys.nextSerial := KeyCache.serial_lt_of_live? hlook
        have hne : s.keys.nextSerial ≠ e.held.serial := Nat.ne_of_gt hnumber
        simp [exchanged, Except.bind, Except.map, hne]

/-! ## 4. The check -/

/-- **The set that is stored for a token is outdated.**  The token names a supported algorithm and a
key, and it is signed; `s₁` is the state in which its source is known, and there the stored set of
this source has to be exchanged. -/
structure Outdated (out : Surroundings) (c : SignatureCheck) (t : Token) (s s₁ : State)
    (source : KeySource) (alg : Algorithm) (id : String) (e : KeyCache.Entry) : Prop where
  supported : t.algorithm? = some alg.name
  signed : t.signature ≠ []
  named : t.keyId? = some id
  sourced : (c.source t).run out s = (.ok source, s₁)
  exchanging : Exchanging out s₁ source alg id e

/-- The token is judged with the set that is fetched, and with no other. -/
theorem Outdated.run_check {s₁ : State} (h : Outdated out c t s s₁ source alg id e) :
    ∃ r s', Fetching out source (exchangeState s₁ source id) r s' ∧
      (c.check t).run out s =
        (r.bind fun held => (judge held.keys alg t).mapError .error, s') := by
  have hp : precheck t = .ok alg :=
    precheck_eq_ok_iff.mpr ⟨Token.headerString?_eq_some_iff.mp h.supported, h.signed⟩
  obtain ⟨r, s', hfetch, hrun⟩ := h.exchanging.run_keysFor
  refine ⟨r, s', hfetch, ?_⟩
  rw [SignatureCheck.run_check hp h.sourced, h.named, hrun]
  cases r with
  | error f => rfl
  | ok held => rfl

/-- A judgement as a verdict. -/
theorem verdictOf_mapError (r : Except Error Unit) :
    verdictOf (r.mapError .error) = .ok (.ofCheck r) := by
  cases r with
  | error e => rfl
  | ok u => rfl

/-- **Keys that were rotated are fetched once, and the answer decides.**  The stored set of the
source of a token has no key for it and is old enough to be fetched again.  Then the check asks the
source once for its keys, after the request for the discovery document if there is one.

* The answer is a key set, and it can be told when it expires.  If it has a key for the token, the
  verdict is what that key says about the signature; if it has none, the verdict is that the id of
  the key is unknown.  The new set is stored in place of the old one, if there is any room and all
  other sets were stored earlier.
* The answer is an error, or no key set.  The verdict is the failure to retrieve the keys, and the
  cache is as it was, the old set included.
* The network crashes, or it cannot be told when the set expires that it answers with.  There is no
  verdict, and the cache is as it was. -/
theorem rotated_keys_are_fetched {s₁ : State} (h : Outdated out c t s s₁ source alg id e) :
    let ran := (Validator.ofAction c.check t).run out s
    let answer := keysIn (out.answer s₁.requests.length source)
    let moment := out.clock (s₁.readings + 4)
    (∃ documents, ran.2.requests = s.requests ++ documents ++ [source] ∧
      (documents = [] ∨ c.service = .ias ∧ documents = [⟨c.discoveryUrl, none⟩])) ∧
    (∀ report, answer = .ok report → s.keys.expiryTold moment = true →
      (∀ k, report.keys.select alg (some id) = .ok k →
        ran.1 = .ok (.ofCheck (k.verify alg t.signingInput t.signature))) ∧
      ((∀ k, report.keys.select alg (some id) ≠ .ok k) →
        ran.1 = .ok (.ofError (.noMatchingKey ((KeySet.NoKey.unknown id).message alg)))) ∧
      (1 ≤ s.keys.maxEntries →
        (∀ p ∈ s.keys.entries, p.1 ≠ source → p.2.storedAt < moment) →
          ran.2.keys.find? source =
            some ⟨⟨s.keys.nextSerial, report.keys⟩, moment, moment + s.keys.ttl⟩)) ∧
    (∀ error, answer = .error (.error error) →
      ran.1 = .ok (.ofError (failureAt source.url error)) ∧
        ran.2.keys = s.keys ∧ ran.2.keys.find? source = some e) ∧
    (answer = .error .crash ∨
        (∃ report, answer = .ok report) ∧ s.keys.expiryTold moment = false →
      ran.1 = .error .crash ∧ ran.2.keys = s.keys ∧ ran.2.keys.find? source = some e) := by
  intro ran answer moment
  have hkeys : s₁.keys = s.keys := (sourcing_of_run h.sourced).keys_eq
  have hfound : s.keys.find? source = some e := hkeys ▸ h.exchanging.found
  have hasked : (exchangeState s₁ source id).requests = s₁.requests := by simp [exchangeState]
  have hheld : (exchangeState s₁ source id).keys = s.keys := hkeys
  have hanswer : keysIn (out.answer (exchangeState s₁ source id).requests.length source) =
      answer := by rw [hasked]
  obtain ⟨r, s', hfetch, hcheck⟩ := h.run_check
  have hran : ran = (verdictOf (r.bind fun held => (judge held.keys alg t).mapError .error), s') :=
    run_validator.trans (by rw [hcheck])
  have hfails (f : Failure) (hf : answer = .error f) :
      r = .error (reported source.url f) ∧ s'.keys = s.keys := by
    obtain ⟨hr, hs', -⟩ := hfetch.of_error (hanswer.trans hf)
    exact ⟨hr, hs'.trans hheld⟩
  have hmoment : out.clock (exchangeState s₁ source id).readings = moment := rfl
  rw [hran]
  refine ⟨?_, fun report hreport htold => ?_, fun error herror => ?_, fun hcrash => ?_⟩
  · obtain ⟨documents, hdocuments, hwhose⟩ := (sourcing_of_run h.sourced).exists_documents
    exact ⟨documents, by rw [hfetch.requests_eq, hasked, hdocuments], hwhose⟩
  · obtain ⟨rfl, hstored⟩ := (hfetch.of_report (hanswer.trans hreport)).1 (hheld ▸ htold)
    refine ⟨fun k hk => ?_, fun hnone => ?_, fun hroom hearlier => ?_⟩
    · rw [Except.bind, verdictOf_mapError, judge, h.named, hk]
      rfl
    · rw [Except.bind, verdictOf_mapError, judge, h.named, KeySet.select_eq_error hnone]
      rfl
    · rw [hstored, hheld]
      exact KeyCache.find?_store_of_others hroom hearlier
  · obtain ⟨rfl, hs'⟩ := hfails _ herror
    exact ⟨rfl, hs', hs' ▸ hfound⟩
  · have hcaches : r = .error .crash ∧ s'.keys = s.keys := by
      rcases hcrash with hcrash | ⟨⟨report, hreport⟩, hfalse⟩
      · exact hfails _ hcrash
      · obtain ⟨hr, hs'⟩ := (hfetch.of_report (hanswer.trans hreport)).2 (hheld ▸ hfalse)
        exact ⟨hr, hs'.trans hheld⟩
    obtain ⟨rfl, hs'⟩ := hcaches
    exact ⟨rfl, hs', hs' ▸ hfound⟩

/-- An empty set was stored two seconds ago when a token comes that is signed with a new key, and
the source answers with a set of this key. -/
theorem rotated_keys_are_fetched_new_key :
    let place : Url := ⟨"https", some ⟨"", none, some (.domain "my.auth.com"), none⟩,
      .segments ["token_keys"], none, none⟩
    let source : KeySource := ⟨place, none⟩
    let c : SignatureCheck := ⟨.xsuaa, place, place, []⟩
    let t : Token :=
      ⟨"a.b.AAE", 3, [("alg", .string "ES256"), ("kid", .string "new")], [], [0, 1]⟩
    let k : Key := .ec none (some "new") "P-256" "AQ" "AQ"
    let body := "\x7b\x22keys\x22:[\x7b\x22kty\x22:\x22EC\x22,\x22kid\x22:\x22new\x22," ++
      "\x22crv\x22:\x22P-256\x22,\x22x\x22:\x22AQ\x22,\x22y\x22:\x22AQ\x22\x7d]\x7d"
    let out : Surroundings :=
      ⟨fun _ => Duration.ofSeconds 2, 0, fun _ _ => .body (Text.Utf8.bytes body)⟩
    let s : State := { keys := (KeyCache.store {} source .empty 0).2 }
    let e : KeyCache.Entry := ⟨⟨0, .empty⟩, 0, Duration.ofSeconds 600⟩
    let ran := (Validator.ofAction c.check t).run out s
    Outdated out c t s s source .es256 "new" e ∧
      keysIn (out.answer s.requests.length source) = .ok ⟨⟨[k]⟩, [], []⟩ ∧
      ran.1 = .ok (.ofCheck (k.verify .es256 t.signingInput t.signature)) ∧
      ran.2.requests = [source] ∧
      ran.2.keys.find? source =
        some ⟨⟨1, ⟨[k]⟩⟩, Duration.ofSeconds 2, Duration.ofSeconds 602⟩ := by
  intro place source c t k body out s e ran
  have hlacking : ∀ k, e.held.keys.select .es256 (some "new") ≠ .ok k := fun k hk => nomatch hk
  have h : Outdated out c t s s source .es256 "new" e :=
    ⟨by decide +kernel, by decide, by decide +kernel, rfl,
      by decide +kernel, by decide +kernel, hlacking, by decide +kernel, by decide +kernel⟩
  have hanswer : keysIn (out.answer s.requests.length source) = .ok ⟨⟨[k]⟩, [], []⟩ := by
    decide +kernel
  obtain ⟨⟨documents, hrequests, hdocuments⟩, hreport, -⟩ := rotated_keys_are_fetched h
  obtain ⟨hverdict, -, hstored⟩ := hreport _ hanswer (by decide +kernel)
  obtain rfl : documents = [] := hdocuments.resolve_right fun hias => nomatch hias.1
  refine ⟨h, hanswer, hverdict k (by decide +kernel), hrequests, ?_⟩
  rw [hstored (by decide) (by decide +kernel)]
  decide +kernel

end SignatureCheck
end TokenTrust

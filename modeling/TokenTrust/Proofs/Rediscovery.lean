/-
# After a discovery document that is of no use

With IAS, a check needs the discovery document before it can look for keys.  If it does not get one,
or gets one without a usable address of the keys, it fails.  The question is when the next check
asks again.

It does so at once if no document could be read: nothing is stored then, and what had expired stays
expired (`Resumed.of_unreadable`).  A document that was read is stored before anybody looks at the
address of the keys in it.  If that address is no URL, the document stays in force, and every check
fails in the same words until its time to live is over (`unusable_document_is_kept`).

Between the two checks the document is as it was left, whatever else is done, as long as nobody
consults it (`find?_discovery_after`).

If it could not be told when a document expires, of this URL or of another one, the cache is
poisoned, and it stays so (`poisoned_after`): nobody asks for a document any more.
-/
import TokenTrust.Proofs.Budget
import TokenTrust.Proofs.Confinement

namespace TokenTrust

open TokenTrust.Action TokenTrust.Retrieval

variable {out : Surroundings} {s s' : State} {url : Url} {op : Operation}

/-! ## 1. Who consults a document -/

/-- **An operation consults the discovery document of a URL**: it is asked for it, or it is a check
of IAS that gets as far as the keys. -/
inductive Operation.Consults (url : Url) : Operation → Prop
  | asked : Consults url (.discover url)
  | checked {c : SignatureCheck} {t : Token} {alg : Algorithm} (hc : c.service = .ias)
    (hu : c.discoveryUrl = url) (hp : SignatureCheck.precheck t = .ok alg) :
    Consults url (.validate c t)

/-- Looking for one document leaves the others alone. -/
theorem Retrieval.Discovering.find?_of_ne {url' : Url} {r : Except Failure Discovery}
    (h : Discovering out url s r s') (hne : url' ≠ url) :
    s'.discovery.find? url' = s.discovery.find? url' := by
  cases h with
  | locked => rfl
  | found => rfl
  | failed => rfl
  | undated => rfl
  | stored => exact DiscoveryCache.find?_store_of_ne _ _ hne

theorem SignatureCheck.Sourcing.find?_of_ne {c : SignatureCheck} {t : Token}
    {r : Except Failure KeySource} (h : Sourcing out c t s r s')
    (hne : c.service = .ias → url ≠ c.discoveryUrl) :
    s'.discovery.find? url = s.discovery.find? url := by
  cases h with
  | xsuaa => rfl
  | ias hc hd => exact (discovering_of_run hd).find?_of_ne (hne hc)

/-- Where nobody consults a document, it stays as it is. -/
theorem find?_discovery_next (h : ¬ op.Consults url) :
    (s.next out op).discovery.find? url = s.discovery.find? url := by
  cases op with
  | configure => rfl
  | configureDiscovery => rfl
  | clear => rfl
  | get source =>
    have hvisit : Visiting out source s (s.next out (.get source)) := (getting_of_run rfl).visiting
    rw [hvisit.discovery_eq]
  | refresh source =>
    have hvisit : Visiting out source s (s.next out (.refresh source)) :=
      (refreshing_of_run rfl).visiting
    rw [hvisit.discovery_eq]
  | discover url' =>
    have hne : url ≠ url' := by
      rintro rfl
      exact h .asked
    exact (discovering_of_run rfl).find?_of_ne hne
  | validate c t =>
    have hne {alg : Algorithm} (hp : SignatureCheck.precheck t = .ok alg) (hc : c.service = .ias) :
        url ≠ c.discoveryUrl := fun hu => h (.checked hc hu.symm hp)
    cases SignatureCheck.validating_next out c t s with
    | refused _ hsame => rw [hsame]
    | sourceless hp hs => exact (SignatureCheck.sourcing_of_run hs).find?_of_ne (hne hp)
    | visited hp hs hv =>
      rw [hv.discovery_eq]
      exact (SignatureCheck.sourcing_of_run hs).find?_of_ne (hne hp)

theorem find?_discovery_after {ops : List Operation} (h : ∀ op ∈ ops, ¬ op.Consults url) :
    (s.after out ops).discovery.find? url = s.discovery.find? url := by
  induction ops using List.reverseRecOn with
  | nil => rfl
  | append_singleton ops op ih =>
    rw [State.after_concat, find?_discovery_next (h op (by simp))]
    exact ih fun op' hop' => h op' (List.mem_append_left _ hop')

/-- **A poisoned cache stays poisoned.** -/
theorem Retrieval.kept_poisoned (out : Surroundings) : Kept out (fun _ => True)
    (fun s s' => s.discovery.poisoned = true → s'.discovery.poisoned = true) where
  trans h h' hp := h' (h hp)
  advance _ _ := id
  logging _ _ := id
  fetching _ h hp := by cases h <;> exact hp
  discovering _ h hp := by
    cases h with
    | undated => rfl
    | _ => exact hp

theorem poisoned_after (hp : s.discovery.poisoned = true) (ops : List Operation) :
    (s.after out ops).discovery.poisoned = true := by
  induction ops using List.reverseRecOn with
  | nil => exact hp
  | append_singleton ops op ih =>
    rw [State.after_concat]
    cases op with
    | configure | configureDiscovery | clear => exact ih
    | _ => exact (kept_poisoned out).next _ rfl ih

/-! ## 2. What looking for a document leaves behind -/

namespace Retrieval

/-- A document that was got is stored afterwards. -/
theorem Discovering.exists_entry {d : Discovery} (h : Discovering out url s (.ok d) s') :
    ∃ e, s'.discovery.find? url = some e ∧ e.document = d := by
  cases h with
  | found hl =>
    obtain ⟨e, he, -, hd⟩ := DiscoveryCache.live?_eq_some_iff.mp hl
    exact ⟨e, he, hd⟩
  | stored => exact ⟨_, DiscoveryCache.find?_store_self _ _ _ _, rfl⟩

/-- Without a document, there was none that could be used, and nothing is stored, unless the cache
is poisoned now. -/
theorem Discovering.of_error {f : Failure} (h : Discovering out url s (.error f) s')
    (hp : s'.discovery.poisoned = false) :
    s.discovery.live? url (out.clock s.readings) = none ∧ s'.discovery = s.discovery := by
  cases h with
  | locked hp' => exact nomatch hp.symm.trans hp'
  | failed hl => exact ⟨hl, rfl⟩
  | undated => exact nomatch hp

/-- Nobody is asked for a poisoned cache. -/
theorem Discovering.of_poisoned {r : Except Failure Discovery} (h : Discovering out url s r s')
    (hp : s.discovery.poisoned = true) :
    s'.requests = s.requests ∧ r = .error (.error DiscoveryCache.lockedError) := by
  cases h with
  | locked => exact ⟨rfl, rfl⟩
  | found _ hp' => exact nomatch hp.symm.trans hp'
  | failed _ _ hp' => exact nomatch hp.symm.trans hp'
  | undated _ _ hp' => exact nomatch hp.symm.trans hp'
  | stored _ _ hp' => exact nomatch hp.symm.trans hp'

/-- Where no document may be used, the URL is asked, and the answer decides. -/
theorem Discovering.of_missing {r : Except Failure Discovery} (h : Discovering out url s r s')
    (hp : s.discovery.poisoned = false)
    (hl : s.discovery.live? url (out.clock s.readings) = none) :
    s'.requests = s.requests ++ [⟨url, none⟩] ∧
      r = (discoveryIn url (out.answer s.requests.length ⟨url, none⟩)).bind (dated out s) := by
  refine ⟨?_, ?_⟩
  · cases h with
    | locked hp' => exact nomatch hp.symm.trans hp'
    | found hl' => exact nomatch hl.symm.trans hl'
    | failed => simp
    | undated => simp
    | stored => simp
  · rw [h.eq_inForce, inForce, if_neg (ne_true_of_eq_false hp), hl]

/-- Where a document may be used, nobody is asked. -/
theorem Discovering.of_live {r : Except Failure Discovery} {d : Discovery}
    (h : Discovering out url s r s') (hp : s.discovery.poisoned = false)
    (hl : s.discovery.live? url (out.clock s.readings) = some d) :
    s'.requests = s.requests ∧ r = .ok d := by
  refine ⟨?_, ?_⟩
  · cases h with
    | locked => rfl
    | found => rfl
    | failed hl' => exact nomatch hl.symm.trans hl'
    | undated hl' => exact nomatch hl.symm.trans hl'
    | stored hl' => exact nomatch hl.symm.trans hl'
  · rw [h.eq_inForce, inForce, if_neg (ne_true_of_eq_false hp), hl]

end Retrieval

/-! ## 3. The next check -/

namespace SignatureCheck

variable {c : SignatureCheck} {t t' : Token} {alg alg' : Algorithm} {f : Failure}

/-- A document without a usable address of the keys fails every token in the same way. -/
theorem sourceIn_eq_error_iff {d : Discovery} :
    c.sourceIn t d = .error f ↔ ∃ e, c.discoveredUrl d = .error e ∧ f = .error e := by
  rw [sourceIn]
  cases c.discoveredUrl d with
  | error e => simp [Except.map, eq_comm]
  | ok url => simp [Except.map]

/-- What a check asks for after it has looked for the source. -/
theorem exists_keys_requests {q : Except Failure KeySource} {s₁ : State}
    (hp : precheck t = .ok alg) (hs : (c.source t).run out s = (q, s₁)) :
    ∃ keys, (s.next out (.validate c t)).requests = s₁.requests ++ keys := by
  cases q with
  | error f => exact ⟨[], by rw [next_of_sourceless hp hs, List.append_nil]⟩
  | ok source =>
    rcases (visiting_next hp hs).requests_eq with hr | hr
    · exact ⟨[], by rw [hr, List.append_nil]⟩
    · exact ⟨_, hr⟩

/-- **How the next check goes on** after one has failed for want of a usable document. -/
inductive Resumed (out : Surroundings) (c : SignatureCheck) (t' : Token) (s : State)
    (f : Failure) (s₂ : State) : Prop
  /-- It asks for the document again, and a good document brings it to the keys, if it can be told
  when that expires. -/
  | asked (hr : ∃ more, (s₂.next out (.validate c t')).requests =
        s₂.requests ++ ⟨c.discoveryUrl, none⟩ :: more)
      (hs : ∀ d u, discoveryIn c.discoveryUrl
          (out.answer s₂.requests.length ⟨c.discoveryUrl, none⟩) = .ok d → d.keysUrl = .ok u →
        s₂.discovery.expiryTold (out.clock (s₂.readings + 1)) = true →
        ((c.source t').run out s₂).1 = .ok ⟨u, t'.zoneId?⟩)
  /-- The document in force at the failure has no usable address of the keys.  It is still there
  and has not expired, so nobody is asked, and the failure is the same. -/
  | kept {e : DiscoveryCache.Entry} {fault : Error}
      (hd : inForce out s c.discoveryUrl = .ok e.document)
      (hu : e.document.keysUrl = .error fault)
      (he : s₂.discovery.find? c.discoveryUrl = some e)
      (hlive : out.clock s₂.readings < e.expiresAt)
      (hr : (s₂.next out (.validate c t')).requests = s₂.requests)
      (hs : ((c.source t').run out s₂).1 = .error f)
  /-- The cache is poisoned: nobody is asked, and no check comes to the keys. -/
  | locked (hp : s₂.discovery.poisoned = true)
      (hr : (s₂.next out (.validate c t')).requests = s₂.requests)
      (hs : ((c.source t').run out s₂).1 = .error (.error DiscoveryCache.lockedError))

/-- Looking for the source with IAS is looking for the document. -/
theorem exists_discovering (hc : c.service = .ias) (out : Surroundings) (s : State) (t : Token) :
    ∃ r s₁, Discovering out c.discoveryUrl s r s₁ ∧
      (c.source t).run out s = (r.bind (c.sourceIn t), s₁) := by
  cases hs : (c.source t).run out s with
  | mk q s₁ =>
    cases sourcing_of_run hs with
    | xsuaa hx => rw [hc] at hx; exact nomatch hx
    | @ias r _ _ hd => exact ⟨r, s₁, discovering_of_run hd, rfl⟩

/-- Where the cache is poisoned, the next check is told so. -/
theorem Resumed.of_poisoned {s₂ : State} (hc : c.service = .ias) (hp : precheck t' = .ok alg')
    (hpoisoned : s₂.discovery.poisoned = true) : Resumed out c t' s f s₂ := by
  obtain ⟨r, s₃, hd, hs⟩ := exists_discovering hc out s₂ t'
  obtain ⟨hr, rfl⟩ := hd.of_poisoned hpoisoned
  refine .locked hpoisoned ?_ (by rw [hs]; rfl)
  rw [next_of_sourceless hp hs, hr]

/-- Where no document may be used, the next check asks for it. -/
theorem Resumed.of_missing {s₂ : State} (hc : c.service = .ias) (hp : precheck t' = .ok alg')
    (hpoisoned : s₂.discovery.poisoned = false)
    (hl : s₂.discovery.live? c.discoveryUrl (out.clock s₂.readings) = none) :
    Resumed out c t' s f s₂ := by
  obtain ⟨r, s₃, hd, hs⟩ := exists_discovering hc out s₂ t'
  obtain ⟨hr, hanswer⟩ := hd.of_missing hpoisoned hl
  refine .asked ?_ fun d u hgood hu htold => ?_
  · obtain ⟨keys, hkeys⟩ := exists_keys_requests hp hs
    exact ⟨keys, by rw [hkeys, hr, List.append_assoc, List.singleton_append]⟩
  · have hdated : dated out s₂ d = .ok d := if_pos htold
    rw [hs, hanswer, hgood, Except.bind, hdated]
    exact sourceIn_eq_ok_iff.mpr ⟨u, hu, rfl⟩

/-- **If no document could be read, the next check asks.**  What could not be used at the failure
cannot be used later. -/
theorem Resumed.of_unreadable {g : Failure} {s₂ : State}
    (hclock : ∀ i j, i ≤ j → out.clock i ≤ out.clock j) (hc : c.service = .ias)
    (hp : precheck t' = .ok alg') (hpoisoned : s₂.discovery.poisoned = false)
    (hnone : s.discovery.live? c.discoveryUrl (out.clock s.readings) = none)
    (hkept : s₂.discovery.find? c.discoveryUrl = s.discovery.find? c.discoveryUrl)
    (hreadings : s.readings ≤ s₂.readings) : Resumed out c t' s g s₂ := by
  refine .of_missing hc hp hpoisoned ?_
  cases hl : s₂.discovery.live? c.discoveryUrl (out.clock s₂.readings) with
  | none => rfl
  | some d =>
    rw [DiscoveryCache.live?, hkept, ← DiscoveryCache.live?] at hl
    have hbefore := DiscoveryCache.live?_of_le hl (hclock _ _ hreadings)
    rw [hnone] at hbefore
    cases hbefore

/-- **If a document could be read, it is stored**, and as long as it may be used every check fails
in the same way. -/
theorem Resumed.of_unusable {e : DiscoveryCache.Entry} {reason fault : Error} {s₂ : State}
    (hc : c.service = .ias) (hp : precheck t' = .ok alg')
    (hpoisoned : s₂.discovery.poisoned = false) (hd : inForce out s c.discoveryUrl = .ok e.document)
    (hu : e.document.keysUrl = .error reason)
    (hfault : c.discoveredUrl e.document = .error fault)
    (he : s₂.discovery.find? c.discoveryUrl = some e) :
    Resumed out c t' s (.error fault) s₂ := by
  by_cases hlive : out.clock s₂.readings < e.expiresAt
  · obtain ⟨r, s₃, hd', hs⟩ := exists_discovering hc out s₂ t'
    have hlive' := DiscoveryCache.live?_eq_some_iff.mpr ⟨e, he, hlive, rfl⟩
    obtain ⟨hr, rfl⟩ := hd'.of_live hpoisoned hlive'
    have hsame : (c.source t').run out s₂ = (.error (.error fault), s₃) := by
      rw [hs]
      exact congrArg (·, s₃) (sourceIn_eq_error_iff.mpr ⟨fault, hfault, rfl⟩)
    refine .kept hd hu he hlive ?_ (by rw [hsame])
    rw [next_of_sourceless hp hsame, hr]
  · refine .of_missing hc hp hpoisoned ?_
    cases hl : s₂.discovery.live? c.discoveryUrl (out.clock s₂.readings) with
    | none => rfl
    | some d =>
      obtain ⟨e', he', hlive', -⟩ := DiscoveryCache.live?_eq_some_iff.mp hl
      obtain rfl : e = e' := Option.some.inj (he.symm.trans he')
      exact absurd hlive' hlive

/-- **After a failure for want of a usable document, the next check asks again, unless the document
could be read.**  The clock does not go back.  A check of IAS fails because it does not come to the
source of the keys, then anything is done but consulting that document, and then there is another
check that gets as far as the keys.  It asks for the document again, and goes on with the new one if
that is good.  It does not ask if the document that failed the first check could be read, names no
URL of the keys, and has not expired yet: then it fails as the first one did.  Nor does it ask if
the cache is poisoned: then it fails for that reason. -/
theorem resumed_after_failure (hclock : ∀ i j, i ≤ j → out.clock i ≤ out.clock j)
    (hc : c.service = .ias) (hp : precheck t = .ok alg)
    (hf : ((c.source t).run out s).1 = .error f) (ops : List Operation)
    (hops : ∀ op ∈ ops, ¬ op.Consults c.discoveryUrl) (hp' : precheck t' = .ok alg') :
    Resumed out c t' s f ((s.next out (.validate c t)).after out ops) := by
  obtain ⟨r, s₁, hd, hs⟩ := exists_discovering hc out s t
  rw [hs] at hf
  have hfailed : r.bind (c.sourceIn t) = .error f := hf
  rw [hfailed] at hs
  rw [next_of_sourceless hp hs]
  cases hpoisoned : (s₁.after out ops).discovery.poisoned with
  | true => exact .of_poisoned hc hp' hpoisoned
  | false => ?_
  have hsound : s₁.discovery.poisoned = false := by
    by_contra hpoisoned'
    exact nomatch hpoisoned.symm.trans (poisoned_after (eq_true_of_ne_false hpoisoned') ops)
  cases r with
  | error g =>
    obtain ⟨hnone, hsame⟩ := hd.of_error hsound
    have hkept : (s₁.after out ops).discovery.find? c.discoveryUrl =
        s.discovery.find? c.discoveryUrl := by
      rw [find?_discovery_after hops, hsame]
    have hreadings : s.readings ≤ s₁.readings :=
      (kept_sourcing (kept_precedes out) (fun _ => trivial) (sourcing_of_run hs)).readings
    exact .of_unreadable hclock hc hp' hpoisoned hnone hkept
      (Nat.le_trans hreadings (State.precedes_after out s₁ ops).readings)
  | ok d =>
    obtain ⟨e, he, rfl⟩ := hd.exists_entry
    obtain ⟨fault, hfault, rfl⟩ := sourceIn_eq_error_iff.mp hfailed
    obtain ⟨reason, hu⟩ : ∃ reason, e.document.keysUrl = .error reason := by
      cases hu : e.document.keysUrl with
      | ok u => simp [discoveredUrl, hu] at hfault
      | error reason => exact ⟨reason, rfl⟩
    exact .of_unusable hc hp' hpoisoned hd.eq_inForce.symm hu hfault
      ((find?_discovery_after hops).trans he)

/-- The first answer is a crash.  After the keys were forgotten, the next check asks again, is given
a good document, and comes to the keys. -/
theorem resumed_after_failure_crash :
    let url (path : String) : Url := ⟨"https", some ⟨"", none, some (.domain "my.auth.com"), none⟩,
      .segments [path], none, none⟩
    let c : SignatureCheck := ⟨.ias, url "token_keys", url "discovery", []⟩
    let t : Token := ⟨"a.b.AAE", 3, [("alg", .string "ES256")], [], [0, 1]⟩
    let good : Answer := .body (Text.Utf8.bytes
      "\x7b\x22jwks_uri\x22:\x22https://my.auth.com/keys\x22\x7d")
    let out : Surroundings := ⟨fun n => n, 0, fun n _ => if n = 0 then .crash else good⟩
    let s : State := (State.next out {} (.validate c t)).after out [.clear]
    Resumed out c t {} .crash s ∧ ((c.source t).run out s).1 = .ok ⟨url "keys", none⟩ := by
  intro url c t good out s
  have hops : ∀ op ∈ [Operation.clear], ¬ op.Consults c.discoveryUrl := by
    intro op hop
    rw [List.mem_singleton.mp hop]
    exact nofun
  have hp : precheck t = .ok .es256 := by decide +kernel
  have hresumed : Resumed out c t {} .crash s :=
    resumed_after_failure (fun _ _ h => h) rfl hp (by decide +kernel) [.clear] hops hp
  exact ⟨hresumed, by decide +kernel⟩

/-- **An unusable document is kept.**  The first answer can be read, but names no URL of the keys.
The next one would be good.  Nobody asks for it: the next check fails as the first one did, since
the document of the first one is still stored. -/
theorem unusable_document_is_kept :
    let url (path : String) : Url := ⟨"https", some ⟨"", none, some (.domain "my.auth.com"), none⟩,
      .segments [path], none, none⟩
    let c : SignatureCheck := ⟨.ias, url "token_keys", url "discovery", []⟩
    let t : Token := ⟨"a.b.AAE", 3, [("alg", .string "ES256")], [], [0, 1]⟩
    let bad : Answer := .body (Text.Utf8.bytes "\x7b\x22jwks_uri\x22:\x22no url\x22\x7d")
    let good : Answer := .body (Text.Utf8.bytes
      "\x7b\x22jwks_uri\x22:\x22https://my.auth.com/keys\x22\x7d")
    let out : Surroundings := ⟨fun n => n, 0, fun n _ => if n = 0 then bad else good⟩
    let first : State := State.next out {} (.validate c t)
    let second : State := first.next out (.validate c t)
    let failure : Failure := .error (.keyRetrieval "https://my.auth.com/discovery"
      "invalid jwks_uri: url parse error: relative URL without a base")
    precheck t = .ok .es256 ∧
      ((c.source t).run out {}).1 = .error failure ∧
      ((c.source t).run out first).1 = .error failure ∧
      first.requests = [⟨url "discovery", none⟩] ∧ second.requests = first.requests ∧
      (discoveryIn c.discoveryUrl (out.answer 1 ⟨c.discoveryUrl, none⟩)).bind (c.sourceIn t) =
        .ok ⟨url "keys", none⟩ := by
  decide +kernel

end SignatureCheck
end TokenTrust

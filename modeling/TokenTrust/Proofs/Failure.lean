/-
# A failed call leaves no trace

A call that asks the network, and gets an error, a crash or a body that does not parse, reports it
and does nothing else: what is stored is exactly what was stored before, and everything that is done
later goes on as if the call had not been made, with the same clock and the same answers from then
on (`failed_call_leaves_no_trace`).  This is so because a set is stored only when it has been read
completely, and because nothing but the caches counts for what comes later (`Proofs.Locality`).

The locks are no exception.  A caller whose call fails leaves them all free, even if it crashes
behind a gate, so callers who come later get what they would have got (`Proofs.Turns`).
-/
import TokenTrust.Proofs.Turns

namespace TokenTrust

open TokenTrust.Action TokenTrust.Retrieval

/-! ## 1. Failing -/

namespace Operation

/-- The one place that an operation asks, if it asks at all. -/
def place? : Operation → Option KeySource
  | .get source | .refresh source => some source
  | .discover url => some ⟨url, none⟩
  | _ => none

/-- What an operation says about a body that does not parse. -/
def complaint? (octets : List UInt8) : Operation → Option String
  | .get _ | .refresh _ =>
    match KeyDocument.parse octets with
    | .ok _ => none
    | .error fault => some (Error.json fault).message
  | .discover _ =>
    match Discovery.parse octets with
    | .ok _ => none
    | .error fault => some ("invalid discovery document: " ++ fault.message)
  | _ => none

/-- **An answer with which an operation fails**, and what it reports.  What the network calls a
failure to retrieve something is passed on as it is; anything else that is wrong becomes such a
failure, at the place that was asked. -/
inductive FailsBy (op : Operation) (place : KeySource) : Answer → Failure → Prop
  | crash : FailsBy op place .crash .crash
  | passedOn {url text : String} :
    FailsBy op place (.failure (.keyRetrieval url text)) (.error (.keyRetrieval url text))
  | failure {e : Error} (h : ∀ url text, e ≠ .keyRetrieval url text) :
    FailsBy op place (.failure e) (.error (.keyRetrieval place.url.redacted.text e.message))
  | unreadable {octets : List UInt8} {text : String} (h : op.complaint? octets = some text) :
    FailsBy op place (.body octets) (.error (.keyRetrieval place.url.redacted.text text))

end Operation

namespace Retrieval

variable {out : Surroundings} {source : KeySource} {s s' : State}

/-- What is reported about a fetch that failed. -/
def reported (url : Url) : Failure → Failure
  | .crash => .crash
  | .error e => .error (failureAt url e)

theorem failureAt_eq {url : Url} {e : Error} (h : ∀ url text, e ≠ .keyRetrieval url text) :
    failureAt url e = .keyRetrieval url.redacted.text e.message := by
  cases e with
  | keyRetrieval url text => exact absurd rfl (h url text)
  | _ => rfl

/-- A fetch fails by what its answer lacks, and leaves both caches alone. -/
theorem Fetching.of_error {r : Except Failure HeldKeys} (h : Fetching out source s r s')
    {f : Failure} (hf : keysIn (out.answer s.requests.length source) = .error f) :
    r = .error (reported source.url f) ∧ s'.keys = s.keys ∧ s'.discovery = s.discovery := by
  cases h with
  | crashed h =>
    obtain rfl := Except.error.inj (h.symm.trans hf)
    exact ⟨rfl, rfl, rfl⟩
  | failed h =>
    obtain rfl := Except.error.inj (h.symm.trans hf)
    exact ⟨rfl, rfl, rfl⟩
  | undated h => exact nomatch h.symm.trans hf
  | stored h => exact nomatch h.symm.trans hf

end Retrieval

namespace Operation

variable {op : Operation} {place source : KeySource} {url : Url} {a : Answer} {f : Failure}

/-- Keys are not read from an answer with which getting or refreshing them fails. -/
theorem FailsBy.keysIn (h : FailsBy op source a f) (hop : op = .get source ∨ op = .refresh source) :
    ∃ g, keysIn a = .error g ∧ reported source.url g = f := by
  cases h with
  | crash => exact ⟨_, rfl, rfl⟩
  | passedOn => exact ⟨_, rfl, rfl⟩
  | failure h => exact ⟨_, rfl, congrArg Failure.error (failureAt_eq h)⟩
  | @unreadable octets text h =>
    have hparse : ∃ fault, KeyDocument.parse octets = .error fault ∧
        (Error.json fault).message = text := by
      rcases hop with rfl | rfl
      all_goals
        rw [complaint?] at h
        cases hp : KeyDocument.parse octets with
        | ok report =>
          rw [hp] at h
          exact nomatch h
        | error fault =>
          rw [hp] at h
          exact ⟨fault, rfl, Option.some.inj h⟩
    obtain ⟨fault, hp, rfl⟩ := hparse
    refine ⟨.error (.json fault), ?_, rfl⟩
    rw [Retrieval.keysIn, hp]
    rfl

/-- Nor is a discovery document. -/
theorem FailsBy.discoveryIn (h : FailsBy (.discover url) ⟨url, none⟩ a f) :
    discoveryIn url a = .error f := by
  cases h with
  | crash => rfl
  | passedOn => rfl
  | failure h =>
    rw [Retrieval.discoveryIn, failureAt_eq h]
  | @unreadable octets text h =>
    rw [complaint?] at h
    cases hp : Discovery.parse octets with
    | ok document =>
      rw [hp] at h
      cases h
    | error fault =>
      rw [hp] at h
      obtain rfl := Option.some.inj h
      rw [Retrieval.discoveryIn, readDiscovery, hp]
      rfl

end Operation

/-! ## 2. What a failed call does -/

namespace State

variable {out : Surroundings} {s : State} {op : Operation} {place : KeySource} {f : Failure}

/-- **A call that fails reports it and changes no cache.** -/
theorem reply_of_failsBy (hplace : op.place? = some place)
    (hasks : (s.next out op).requests ≠ s.requests)
    (hfails : op.FailsBy place (out.answer s.requests.length place) f) :
    s.reply out op = .error f ∧ (s.next out op).keys = s.keys ∧
      (s.next out op).discovery = s.discovery := by
  cases op with
  | get source =>
    obtain rfl : source = place := Option.some.inj hplace
    obtain ⟨g, hg, rfl⟩ := hfails.keysIn (Or.inl rfl)
    rw [next] at hasks ⊢
    rw [reply]
    cases hrun : (getKeys source).run out s with
    | mk r s' =>
      rw [hrun] at hasks
      cases getting_of_run hrun with
      | first => exact absurd rfl hasks
      | second => exact absurd rfl hasks
      | fetched _ _ hf => cases (hf.of_error hg).1
      | failed _ _ hf =>
        obtain ⟨hr, hcaches⟩ := hf.of_error hg
        obtain rfl := Except.error.inj hr
        exact ⟨rfl, hcaches⟩
  | refresh source =>
    obtain rfl : source = place := Option.some.inj hplace
    obtain ⟨g, hg, rfl⟩ := hfails.keysIn (Or.inr rfl)
    rw [next] at hasks ⊢
    rw [reply]
    cases hrun : (refreshKeys source).run out s with
    | mk r s' =>
      rw [hrun] at hasks
      cases refreshing_of_run hrun with
      | limited => exact absurd (State.logging_requests _ _) hasks
      | waited => exact absurd rfl hasks
      | untold => exact absurd rfl hasks
      | fetched _ _ hf =>
        obtain ⟨rfl, hcaches⟩ := hf.of_error hg
        exact ⟨rfl, hcaches⟩
  | discover url =>
    obtain rfl := Option.some.inj hplace
    rw [next] at hasks ⊢
    rw [reply]
    cases hrun : (getDiscovery url).run out s with
    | mk r s' =>
      rw [hrun] at hasks
      cases discovering_of_run hrun with
      | locked => exact absurd rfl hasks
      | found => exact absurd rfl hasks
      | failed _ ha =>
        obtain rfl := Except.error.inj (ha.symm.trans hfails.discoveryIn)
        exact ⟨rfl, rfl, rfl⟩
      | undated _ ha => cases ha.symm.trans hfails.discoveryIn
      | stored _ ha => cases ha.symm.trans hfails.discoveryIn
  | _ => cases hplace

/-- **A failed call leaves no trace.**  A call gets or refreshes the keys of a place, or gets a
discovery document; it asks the network, and is answered with an error, a crash, or a body that does
not parse.  Then it reports that, and

* both caches are exactly what they were before;
* whatever is done later gives the same results, and leaves the same caches, as if the call had not
  been made, in surroundings that show from there on what these show after the call;
* the same is true of callers who have to take locks, and come one after another when nobody is
  under way: the one whose call fails is told so, those who come later are told what they would
  have been told, and in the end every lock is free. -/
theorem failed_call_leaves_no_trace (hplace : op.place? = some place)
    (hasks : (s.next out op).requests ≠ s.requests)
    (hfails : op.FailsBy place (out.answer s.requests.length place) f) :
    s.reply out op = .error f ∧
    ((s.next out op).keys = s.keys ∧ (s.next out op).discovery = s.discovery) ∧
    ∀ out', out'.ahead s = out.ahead (s.next out op) →
      (∀ ops, (s.next out op).replies out ops = s.replies out' ops ∧
        ((s.next out op).after out ops).keys = (s.after out' ops).keys ∧
        ((s.next out op).after out ops).discovery = (s.after out' ops).discovery) ∧
      ∀ (n : Nat) (c : Crowd n) (t : Fin n) (later : List (Fin n × Operation)), c.Quiet →
        c.state = s → (∀ turn ∈ (t, op) :: later, turn.2.errand?.isSome = true) →
        ∃ c', Crowd.Turns out c ((t, op) :: later)
          (.error f :: s.replies out' (later.map (·.2))) c' ∧ c'.Quiet := by
  obtain ⟨hreply, hkeys, hdiscovery⟩ := reply_of_failsBy hplace hasks hfails
  refine ⟨hreply, ⟨hkeys, hdiscovery⟩, fun out' hahead => ?_⟩
  have hlevel : Level out' s out (s.next out op) := ⟨hkeys, hdiscovery, hahead.symm⟩
  refine ⟨fun ops => ?_, fun n c t later hquiet hstate herrands => ?_⟩
  · obtain ⟨hreplies, hafter⟩ := hlevel.replies_eq ops
    exact ⟨hreplies, hafter.keys, hafter.discovery⟩
  · obtain ⟨c', hturns, hquiet'⟩ := hquiet.turns out ((t, op) :: later) herrands
    rw [hstate, List.map_cons, replies, hreply, (hlevel.replies_eq _).1] at hturns
    exact ⟨c', hturns, hquiet'⟩

/-- The keys of one place are stored when the request for those of another one crashes.  They are
asked for again, and the second request is answered with a set: as if it had been the first. -/
theorem failed_call_leaves_no_trace_crash :
    let place (path : String) : KeySource :=
      ⟨⟨"https", some ⟨"", none, some (.domain "my.auth.com"), none⟩, .segments [path], none, none⟩,
        none⟩
    let source : KeySource := place "token_keys"
    let empty : Answer := .body (Text.Utf8.bytes "\x7b\x22keys\x22:[]\x7d")
    let out : Surroundings := ⟨fun _ => 0, 0, fun k _ => if k = 0 then .crash else empty⟩
    let s : State := State.next out {} (.configure (.preloaded (place "other_keys") .empty))
    let failed : State := s.next out (.get source)
    let out' : Surroundings := (out.ahead failed).postponed s
    let fetched : Except Failure Gain := .ok (.keys ⟨1, .empty⟩ (some .network))
    s.reply out (.get source) = .error .crash ∧ failed.keys = s.keys ∧
      failed.replies out [.get source] = [fetched] ∧ s.replies out' [.get source] = [fetched] ∧
      ∃ c' : Crowd 2, Crowd.Turns out { state := s } [(0, .get source), (1, .get source)]
        [.error .crash, fetched] c' ∧ c'.Quiet := by
  intro place source empty out s failed out' fetched
  have hasks : failed.requests ≠ s.requests := by decide +kernel
  have hfails : (Operation.get source).FailsBy source (out.answer s.requests.length source)
      .crash := .crash
  have hagain : s.replies out' [.get source] = [fetched] := by decide +kernel
  have hquiet : Crowd.Quiet ({ state := s } : Crowd 2) :=
    ⟨fun _ => rfl, rfl, fun _ => rfl, rfl, rfl⟩
  obtain ⟨hreply, ⟨hkeys, -⟩, hlater⟩ := failed_call_leaves_no_trace rfl hasks hfails
  obtain ⟨hruns, hcrowds⟩ := hlater out' (Surroundings.ahead_postponed _ s)
  refine ⟨hreply, hkeys, (hruns _).1.trans hagain, hagain, ?_⟩
  obtain ⟨c', hturns, hquiet'⟩ :=
    hcrowds 2 { state := s } 0 [(1, .get source)] hquiet rfl (by simp [Operation.errand?])
  rw [List.map_cons, List.map_nil, hagain] at hturns
  exact ⟨c', hturns, hquiet'⟩

end State
end TokenTrust

/-
# Two runs that differ in user names and passwords

The same things are done twice, with URLs that differ in user name and password, and it is compared
what comes of it.  Nobody who sees results and log lines can tell the two runs apart, because a URL
is redacted before it is shown.  But inside they differ: sources are keys of the caches with
everything that is in them, user name and password included.

So the runs are related by a `Disguise`, which says for each source and each URL of one run what
stands for it in the other, one to one.  The caches of one run are those of the other in disguise
(`State.Alike`), entry by entry, and everything that is done with them respects this: an entry is
found in one run if it is found in the other, is as old, and makes way at the same moment.

A step of one run is followed by a step of the other (`Comparison.Agree`).  There is one lemma for
each way of putting actions together, and one for each retrieval, along its definition.  A
comparison may carry an excuse, under which texts may differ; what is stored does not
differ even then.
-/
import Mathlib.Logic.Equiv.Basic
import TokenTrust.Proofs.Cache
import TokenTrust.Proofs.Retrieval

namespace TokenTrust

open TokenTrust.Action TokenTrust.Retrieval

/-! ## 1. User names and passwords -/

/-- The URL that is shown is the same whatever the user name and the password are. -/
theorem Url.redacted_eq {u u' : Url} (h : u.withoutUserinfo = u'.withoutUserinfo) :
    u.redacted = u'.redacted := by
  rw [redacted, h, ← redacted]

/-- The source without user name and password. -/
def KeySource.withoutUserinfo (source : KeySource) : KeySource :=
  { source with url := source.url.withoutUserinfo }

/-- A source is shown in the same way whatever the user name and the password are. -/
theorem KeySource.text_eq {source source' : KeySource}
    (h : source.withoutUserinfo = source'.withoutUserinfo) : source.text = source'.text := by
  obtain ⟨hurl, htenant⟩ := KeySource.mk.inj h
  rw [text, text, Url.redacted_eq hurl, htenant]

/-- **The network does not look at user names and passwords.**  Its answers may change from one
request to the next in any other way. -/
def Surroundings.IgnoresUserinfo (out : Surroundings) : Prop :=
  ∀ n source source', source.withoutUserinfo = source'.withoutUserinfo →
    out.answer n source = out.answer n source'

/-- What stands in a second run for the sources of keys and for the places of discovery documents
of a first one. -/
structure Disguise where
  source : Equiv.Perm KeySource
  place : Equiv.Perm Url
  source_withoutUserinfo : ∀ s, (source s).withoutUserinfo = s.withoutUserinfo
  place_withoutUserinfo : ∀ u, (place u).withoutUserinfo = u.withoutUserinfo

namespace Disguise

variable (δ : Disguise)

theorem text_source (source : KeySource) : (δ.source source).text = source.text :=
  KeySource.text_eq (δ.source_withoutUserinfo source)

theorem redacted_source (source : KeySource) :
    (δ.source source).url.redacted = source.url.redacted :=
  Url.redacted_eq (KeySource.mk.inj (δ.source_withoutUserinfo source)).1

theorem redacted_place (url : Url) : (δ.place url).redacted = url.redacted :=
  Url.redacted_eq (δ.place_withoutUserinfo url)

/-- What is logged about the failure of a source does not show the disguise. -/
theorem failureLine_source (source : KeySource) (e : Error) :
    failureLine (δ.source source) e = failureLine source e := by
  rw [failureLine, δ.text_source, ← failureLine]

/-- Nor does the error that is reported. -/
theorem failureAt_source (source : KeySource) (e : Error) :
    failureAt (δ.source source).url e = failureAt source.url e := by
  cases e <;> simp only [failureAt, δ.redacted_source]

theorem failureAt_place (url : Url) (e : Error) : failureAt (δ.place url) e = failureAt url e := by
  cases e <;> simp only [failureAt, δ.redacted_place]

theorem readDiscovery_place (url : Url) (body : List UInt8) :
    readDiscovery (δ.place url) body = readDiscovery url body := by
  rw [readDiscovery, δ.redacted_place, ← readDiscovery]

end Disguise

/-! ## 2. The cache of key sets -/

namespace KeyCache

variable {δ : Disguise} {c c' : KeyCache}

/-- The entries under the sources that stand for theirs. -/
def Entries.disguised (es : Entries) (δ : Disguise) : Entries :=
  es.map fun (source, e) => (δ.source source, e)

namespace Entries

variable (es : Entries) (source : KeySource)

theorem find?_disguised : (es.disguised δ).find? (δ.source source) = es.find? source := by
  simp only [find?, disguised, List.find?_map, Option.map_map, Function.comp_def,
    δ.source.injective.beq_eq]

theorem insert_disguised (e : Entry) :
    (es.disguised δ).insert (δ.source source) e = (es.insert source e).disguised δ := by
  simp [insert, disguised, List.filter_map, Function.comp_def]

/-- What was stored first in disguise is what was stored first. -/
theorem fit_disguised (order : Order) (room : Nat) :
    (es.disguised δ).fit order room = (es.fit order room).disguised δ :=
  fit_map (f := fun (source, e) => (δ.source source, e)) (fun _ _ => rfl) room es

end Entries

/-- **A cache is another one in disguise.** -/
structure Alike (δ : Disguise) (c c' : KeyCache) : Prop where
  entries : c'.entries = c.entries.disguised δ
  ttl : c'.ttl = c.ttl
  minRefresh : c'.minRefresh = c.minRefresh
  maxEntries : c'.maxEntries = c.maxEntries
  order : c'.order = c.order
  nextSerial : c'.nextSerial = c.nextSerial

namespace Alike

variable (h : Alike δ c c') (source : KeySource)

include h

theorem find?_eq : c'.find? (δ.source source) = c.find? source := by
  rw [find?, h.entries, Entries.find?_disguised, ← find?]

theorem live?_eq (now : Instant) : c'.live? (δ.source source) now = c.live? source now := by
  rw [live?, h.find?_eq, ← live?]

theorem recent?_eq (requestedAt now : Instant) :
    c'.recent? (δ.source source) requestedAt now = c.recent? source requestedAt now := by
  simp only [recent?, h.find?_eq, h.minRefresh]

theorem intervalTold_eq : c'.intervalTold (δ.source source) = c.intervalTold source := by
  simp only [intervalTold, h.find?_eq, h.minRefresh]

omit source in
theorem expiryTold_eq (now : Instant) : c'.expiryTold now = c.expiryTold now := by
  rw [expiryTold, h.ttl, ← expiryTold]

theorem held_store (keys : KeySet) (now : Instant) :
    (c'.store (δ.source source) keys now).1 = (c.store source keys now).1 := by
  simp only [store, h.nextSerial]

/-- **What is stored in both stays alike**, and what has to make way for it is alike. -/
theorem store (keys : KeySet) (now : Instant) :
    Alike δ (c.store source keys now).2 (c'.store (δ.source source) keys now).2 where
  entries := by
    simp only [KeyCache.store, h.entries, h.nextSerial, h.ttl, h.maxEntries, h.order,
      Entries.insert_disguised, Entries.fit_disguised]
  ttl := h.ttl
  minRefresh := h.minRefresh
  maxEntries := h.maxEntries
  order := h.order
  nextSerial := congrArg (· + 1) h.nextSerial

end Alike
end KeyCache

/-! ## 3. The cache of discovery documents -/

namespace DiscoveryCache

variable {δ : Disguise} {c c' : DiscoveryCache}

/-- **A cache is another one in disguise.** -/
structure Alike (δ : Disguise) (c c' : DiscoveryCache) : Prop where
  entries : c'.entries = c.entries.map fun (url, e) => (δ.place url, e)
  ttl : c'.ttl = c.ttl
  poisoned : c'.poisoned = c.poisoned

namespace Alike

variable (h : Alike δ c c') (url : Url)

include h

theorem live?_eq (now : Instant) : c'.live? (δ.place url) now = c.live? url now := by
  simp only [live?, find?, h.entries, List.find?_map, Option.map_map, Function.comp_def,
    δ.place.injective.beq_eq]

theorem store (document : Discovery) (now : Instant) :
    Alike δ (c.store url document now) (c'.store (δ.place url) document now) where
  entries := by
    simp [DiscoveryCache.store, h.entries, h.ttl, List.filter_map, Function.comp_def]
  ttl := h.ttl
  poisoned := h.poisoned

end Alike
end DiscoveryCache

/-! ## 4. States -/

namespace State

/-- The lines of a state after some more were logged. -/
theorem log_logging (s : State) (lines : List LogLine) :
    (s.logging lines).log = s.log ++ lines := by
  simp [log, logging, List.filterMap_map, Function.comp_def, Event.line?]

/-- A request is no line. -/
theorem log_record_requested (s : State) (source : KeySource) :
    (s.record (.requested source)).log = s.log := by
  simp [log, record, Event.line?]

theorem length_requests_record_requested (s : State) (source : KeySource) :
    (s.record (.requested source)).requests.length = s.requests.length + 1 := by
  simp [requests, record, Event.source?]

/-- **A state is another one in disguise.**  Of what happened only the number of requests counts,
since the network and the clock know nothing else of it. -/
structure Alike (δ : Disguise) (s s' : State) : Prop where
  keys : KeyCache.Alike δ s.keys s'.keys
  discovery : DiscoveryCache.Alike δ s.discovery s'.discovery
  readings : s'.readings = s.readings
  requests : s'.requests.length = s.requests.length

end State

/-- One step of two runs: how they are disguised, the states in which the step begins, and a reason
for which texts may differ. -/
structure Comparison where
  disguise : Disguise
  first : State
  second : State
  excuse : Prop

namespace Comparison

/-- **Two states within a step.**  They are alike, and the same lines were logged since the
step began. -/
structure Alike (w : Comparison) (s s' : State) : Prop extends State.Alike w.disguise s s' where
  lines : ∃ told told', s.log = w.first.log ++ told ∧ s'.log = w.second.log ++ told' ∧
    (w.excuse ∨ told = told')

/-- Two results that show the same: values that belong together, or the same error. -/
inductive Results {α β : Type} (w : Comparison) (rel : α → β → Prop) :
    Except Error α → Except Error β → Prop
  | value {a : α} {b : β} (h : rel a b) : Results w rel (.ok a) (.ok b)
  | error {e e' : Error} (h : w.excuse ∨ e = e') : Results w rel (.error e) (.error e')

/-- **Two actions end in the same way**: they show the same, and the states are alike. -/
inductive Agree {α β : Type} (w : Comparison) (rel : α → β → Prop) :
    Except Failure α × State → Except Failure β × State → Prop
  | value {a : α} {b : β} {s s' : State} (h : rel a b) (hs : w.Alike s s') :
    Agree w rel (.ok a, s) (.ok b, s')
  | error {e e' : Error} {s s' : State} (h : w.excuse ∨ e = e') (hs : w.Alike s s') :
    Agree w rel (.error (.error e), s) (.error (.error e'), s')
  | crash {s s' : State} (hs : w.Alike s s') :
    Agree w rel (.error .crash, s) (.error .crash, s')

variable {w : Comparison} {s s' : State} {out : Surroundings}

theorem Results.refl {α : Type} (r : Except Error α) : w.Results Eq r r := by
  cases r with
  | ok a => exact .value rfl
  | error e => exact .error (Or.inr rfl)

/-- Results that show the same still do when their errors are changed in the same way. -/
theorem Results.mapError {α β : Type} {rel : α → β → Prop} {r : Except Error α}
    {r' : Except Error β} {f f' : Error → Error} (hf : ∀ e, f' e = f e)
    (h : w.Results rel r r') : w.Results rel (r.mapError f) (r'.mapError f') := by
  cases h with
  | value ha => exact .value ha
  | error he => exact .error (he.imp_right fun he => by rw [he, hf])

namespace Alike

variable (h : w.Alike s s')

include h

theorem advance (n : Nat) : w.Alike (s.advance n) (s'.advance n) where
  keys := h.keys
  discovery := h.discovery
  readings := congrArg (· + n) h.readings
  requests := h.requests
  lines := h.lines

theorem logging {lines lines' : List LogLine} (hl : w.excuse ∨ lines = lines') :
    w.Alike (s.logging lines) (s'.logging lines') where
  keys := h.keys
  discovery := h.discovery
  readings := h.readings
  requests := by rw [State.logging_requests, State.logging_requests, h.requests]
  lines := by
    obtain ⟨told, told', hs, hs', ht⟩ := h.lines
    refine ⟨told ++ lines, told' ++ lines', ?_, ?_, ?_⟩
    · rw [State.log_logging, hs, List.append_assoc]
    · rw [State.log_logging, hs', List.append_assoc]
    · rcases hl with hx | rfl
      · exact Or.inl hx
      · exact ht.imp_right (congrArg (· ++ lines))

/-- It is not seen which source was asked. -/
theorem asked (source source' : KeySource) :
    w.Alike (s.record (.requested source)) (s'.record (.requested source')) where
  keys := h.keys
  discovery := h.discovery
  readings := h.readings
  requests := by
    rw [State.length_requests_record_requested, State.length_requests_record_requested, h.requests]
  lines := by
    rw [State.log_record_requested, State.log_record_requested]
    exact h.lines

theorem storing (source : KeySource) (keys : KeySet) (moment : Instant) :
    w.Alike (s.storing source keys moment)
      (s'.storing (w.disguise.source source) keys moment) where
  keys := h.keys.store source keys moment
  discovery := h.discovery
  readings := congrArg (· + 1) h.readings
  requests := h.requests
  lines := h.lines

theorem withDiscovery {c c' : DiscoveryCache} (hc : DiscoveryCache.Alike w.disguise c c') :
    w.Alike { s with discovery := c } { s' with discovery := c' } where
  keys := h.keys
  discovery := hc
  readings := h.readings
  requests := h.requests
  lines := h.lines

end Alike

/-! ## 5. Actions -/

namespace Agree

variable {α β γ ε : Type} {rel : α → β → Prop} {rel' : γ → ε → Prop}

theorem pure {a : α} {b : β} (ha : rel a b) (h : w.Alike s s') :
    w.Agree rel ((Pure.pure a : Action α).run out s) ((Pure.pure b : Action β).run out s') :=
  .value ha h

/-- **One action after another.**  The second ones agree wherever the first ones end. -/
theorem bind {x : Action α} {y : Action β} {f : α → Action γ} {g : β → Action ε}
    (h : w.Agree rel (x.run out s) (y.run out s'))
    (hf : ∀ {a b s₁ s₁'}, rel a b → w.Alike s₁ s₁' →
      w.Agree rel' ((f a).run out s₁) ((g b).run out s₁')) :
    w.Agree rel' ((x >>= f).run out s) ((y >>= g).run out s') := by
  rw [run_bind, run_bind]
  generalize x.run out s = p at h ⊢
  generalize y.run out s' = q at h ⊢
  cases h with
  | value ha hs => exact hf ha hs
  | error he hs => exact .error he hs
  | crash hs => exact .crash hs

theorem fail {e e' : Error} (he : w.excuse ∨ e = e') (h : w.Alike s s') :
    w.Agree rel ((Action.fail e : Action α).run out s)
      ((Action.fail e' : Action β).run out s') :=
  .error he h

theorem ofExcept {r : Except Error α} {r' : Except Error β} (hr : w.Results rel r r')
    (h : w.Alike s s') :
    w.Agree rel ((Action.ofExcept r).run out s) ((Action.ofExcept r').run out s') := by
  cases hr with
  | value ha => exact .value ha h
  | error he => exact .error he h

/-- What shows the same, shows the same as a value. -/
theorem attempt {x : Action α} {y : Action β} (h : w.Agree rel (x.run out s) (y.run out s')) :
    w.Agree (w.Results rel) ((Action.attempt x).run out s) ((Action.attempt y).run out s') := by
  rw [run_attempt, run_attempt]
  generalize x.run out s = p at h ⊢
  generalize y.run out s' = q at h ⊢
  cases h with
  | value ha hs => exact .value (.value ha) hs
  | error he hs => exact .value (.error he) hs
  | crash hs => exact .crash hs

theorem log {line line' : LogLine} (hl : w.excuse ∨ line = line') (h : w.Alike s s') :
    w.Agree (fun _ _ => True) ((Action.log line).run out s) ((Action.log line').run out s') :=
  .value trivial (h.logging (hl.imp_right (congrArg ([·]))))

theorem logAll (lines : List LogLine) (h : w.Alike s s') :
    w.Agree (fun _ _ => True) ((Action.logAll lines).run out s)
      ((Action.logAll lines).run out s') := by
  rw [run_logAll, run_logAll]
  exact .value trivial (h.logging (Or.inr rfl))

theorem now (h : w.Alike s s') :
    w.Agree Eq (Action.now.run out s) (Action.now.run out s') := by
  rw [run_now, run_now, h.readings]
  exact .value rfl (h.advance 1)

theorem setDiscoveryCache {c c' : DiscoveryCache} (hc : DiscoveryCache.Alike w.disguise c c')
    (h : w.Alike s s') :
    w.Agree (fun _ _ => True) ((Action.setDiscoveryCache c).run out s)
      ((Action.setDiscoveryCache c').run out s') :=
  .value trivial (h.withDiscovery hc)

/-- **The same request** is answered in the same way, wherever it goes. -/
theorem request {source source' : KeySource}
    (ha : ∀ n, out.answer n source' = out.answer n source) (h : w.Alike s s') :
    w.Agree Eq ((Action.request source).run out s) ((Action.request source').run out s') := by
  rw [run_request, run_request, h.requests, ha]
  cases out.answer s.requests.length source with
  | body octets => exact .value rfl (h.asked source source')
  | failure e => exact .error (Or.inr rfl) (h.asked source source')
  | crash => exact .crash (h.asked source source')

end Agree

/-! ## 6. Retrievals -/

section Retrievals

variable (source : KeySource) (url : Url)

theorem agree_orFailure {α : Type} {r r' : Except Error α} (hr : w.Results Eq r r')
    (h : w.Alike s s') :
    w.Agree Eq ((orFailure source r).run out s)
      ((orFailure (w.disguise.source source) r').run out s') := by
  cases hr with
  | value ha => exact .pure ha h
  | error he =>
    rw [orFailure, orFailure, w.disguise.failureLine_source, w.disguise.failureAt_source]
    refine (Agree.log (he.imp_right (congrArg (failureLine source))) h).bind fun _ h => ?_
    exact .fail (he.imp_right (congrArg (failureAt source.url))) h

theorem agree_storeKeys (keys : KeySet) (h : w.Alike s s') :
    w.Agree Eq ((storeKeys source keys).run out s)
      ((storeKeys (w.disguise.source source) keys).run out s') := by
  rw [run_storeKeys, run_storeKeys, h.readings, h.keys.expiryTold_eq]
  cases s.keys.expiryTold (out.clock s.readings) with
  | true => exact .value (h.keys.held_store source keys _).symm (h.storing source keys _)
  | false => exact .crash (h.advance 1)

/-- **A fetch is announced, fails and stores in the same way.** -/
theorem agree_fetchKeys (ho : out.IgnoresUserinfo) (h : w.Alike s s') :
    w.Agree Eq ((fetchKeys source).run out s)
      ((fetchKeys (w.disguise.source source)).run out s') := by
  have hask (n : Nat) : out.answer n (w.disguise.source source) = out.answer n source :=
    ho n _ _ (w.disguise.source_withoutUserinfo source)
  rw [fetchKeys, fetchKeys, w.disguise.text_source]
  refine (Agree.log (Or.inr rfl) h).bind fun _ h => ?_
  refine (Agree.request hask h).attempt.bind fun hbody h => ?_
  refine (agree_orFailure source hbody h).bind fun hoctets h => ?_
  subst hoctets
  refine (agree_orFailure source (.refl _) h).bind fun {report _ _ _} hreport h => ?_
  subst hreport
  refine (Agree.logAll report.log h).bind fun _ h => ?_
  by_cases hempty : report.keys.isEmpty
  · simp only [hempty, if_true]
    exact (Agree.log (Or.inr rfl) h).bind fun _ h => agree_storeKeys source report.keys h
  · simp only [hempty]
    exact agree_storeKeys source report.keys h

theorem agree_lookForKeys (h : w.Alike s s') :
    w.Agree Eq ((lookForKeys source).run out s)
      ((lookForKeys (w.disguise.source source)).run out s') := by
  rw [run_lookForKeys, run_lookForKeys, h.readings, h.keys.live?_eq]
  exact .value rfl (h.advance 1)

theorem agree_getKeysExclusively (ho : out.IgnoresUserinfo) (h : w.Alike s s') :
    w.Agree Eq ((getKeysExclusively source).run out s)
      ((getKeysExclusively (w.disguise.source source)).run out s') := by
  refine (agree_lookForKeys source h).bind fun {found _ _ _} hfound h => ?_
  subst hfound
  cases found with
  | some held => exact .pure rfl h
  | none =>
    refine (agree_fetchKeys source ho h).bind fun hheld h => ?_
    exact .pure (congrArg (·, Origin.network) hheld) h

theorem agree_getKeys (ho : out.IgnoresUserinfo) (h : w.Alike s s') :
    w.Agree Eq ((getKeys source).run out s)
      ((getKeys (w.disguise.source source)).run out s') := by
  refine (agree_lookForKeys source h).bind fun {found _ _ _} hfound h => ?_
  subst hfound
  cases found with
  | some held => exact .pure rfl h
  | none => exact agree_getKeysExclusively source ho h

theorem agree_lookForRecentKeys (requestedAt : Instant) (h : w.Alike s s') :
    w.Agree Eq ((lookForRecentKeys source requestedAt).run out s)
      ((lookForRecentKeys (w.disguise.source source) requestedAt).run out s') := by
  rw [run_lookForRecentKeys, run_lookForRecentKeys, h.readings, h.keys.recent?_eq,
    h.keys.intervalTold_eq]
  cases s.keys.intervalTold source with
  | true => exact .value rfl (h.advance 1)
  | false => exact .crash h

theorem agree_beginRefresh (h : w.Alike s s') :
    w.Agree Eq ((beginRefresh source).run out s)
      ((beginRefresh (w.disguise.source source)).run out s') := by
  refine (Agree.now h).bind fun {requestedAt _ _ _} hmoment h => ?_
  subst hmoment
  refine (agree_lookForRecentKeys source requestedAt h).bind fun {found _ _ _} hfound h => ?_
  subst hfound
  cases found with
  | none => exact .pure rfl h
  | some held =>
    have hline : limitedLine source = limitedLine (w.disguise.source source) := by
      rw [limitedLine, limitedLine, w.disguise.text_source]
    exact (Agree.log (Or.inr hline) h).bind fun _ h => .pure rfl h

theorem agree_refreshKeysExclusively (ho : out.IgnoresUserinfo) (requestedAt : Instant)
    (h : w.Alike s s') :
    w.Agree Eq ((refreshKeysExclusively source requestedAt).run out s)
      ((refreshKeysExclusively (w.disguise.source source) requestedAt).run out s') := by
  refine (agree_lookForRecentKeys source requestedAt h).bind fun {found _ _ _} hfound h => ?_
  subst hfound
  cases found with
  | some held => exact .pure rfl h
  | none => exact agree_fetchKeys source ho h

theorem agree_refreshKeys (ho : out.IgnoresUserinfo) (h : w.Alike s s') :
    w.Agree Eq ((refreshKeys source).run out s)
      ((refreshKeys (w.disguise.source source)).run out s') := by
  refine (agree_beginRefresh source h).bind fun {begun _ _ _} hbegun h => ?_
  subst hbegun
  obtain ⟨requestedAt, found⟩ := begun
  cases found with
  | some held => exact .pure rfl h
  | none => exact agree_refreshKeysExclusively source ho requestedAt h

theorem agree_usableDiscovery (h : w.Alike s s') :
    w.Agree (DiscoveryCache.Alike w.disguise) (usableDiscovery.run out s)
      (usableDiscovery.run out s') := by
  rw [run_usableDiscovery, run_usableDiscovery, h.discovery.poisoned]
  cases s.discovery.poisoned with
  | true => exact .error (Or.inr rfl) h
  | false => exact .value h.discovery h

theorem agree_storeDiscovery (document : Discovery) (h : w.Alike s s') :
    w.Agree (fun _ _ => True) ((storeDiscovery url document).run out s)
      ((storeDiscovery (w.disguise.place url) document).run out s') := by
  refine (agree_usableDiscovery h).bind fun {cache cache' _ _} hcache h => ?_
  refine (Agree.now h).bind fun {moment _ _ _} hmoment h => ?_
  subst hmoment
  have htold : cache'.expiryTold moment = cache.expiryTold moment := by
    rw [DiscoveryCache.expiryTold, hcache.ttl, ← DiscoveryCache.expiryTold]
  rw [htold]
  cases cache.expiryTold moment with
  | true => exact Agree.setDiscoveryCache (hcache.store url document moment) h
  | false =>
    have hpoisoned : DiscoveryCache.Alike w.disguise { cache with poisoned := true }
        { cache' with poisoned := true } := ⟨hcache.entries, hcache.ttl, rfl⟩
    refine (Agree.setDiscoveryCache hpoisoned h).bind fun _ h => ?_
    exact .crash h

theorem agree_fetchDiscovery (ho : out.IgnoresUserinfo) (h : w.Alike s s') :
    w.Agree Eq ((fetchDiscovery url).run out s)
      ((fetchDiscovery (w.disguise.place url)).run out s') := by
  have hask (n : Nat) : out.answer n ⟨w.disguise.place url, none⟩ = out.answer n ⟨url, none⟩ :=
    ho n _ _ (congrArg (KeySource.mk · none) (w.disguise.place_withoutUserinfo url))
  rw [fetchDiscovery, fetchDiscovery, w.disguise.redacted_place]
  refine (Agree.log (Or.inr rfl) h).bind fun _ h => ?_
  refine (Agree.request hask h).attempt.bind fun hbody h => ?_
  refine (Agree.ofExcept (hbody.mapError (w.disguise.failureAt_place url)) h).bind
    fun {octets _ _ _} hoctets h => ?_
  subst hoctets
  rw [w.disguise.readDiscovery_place]
  refine (Agree.ofExcept (.refl _) h).bind fun {document _ _ _} hdocument h => ?_
  subst hdocument
  exact (agree_storeDiscovery url document h).bind fun _ h => .pure rfl h

/-- **A discovery document is found, asked for, refused and stored in the same way.** -/
theorem agree_getDiscovery (ho : out.IgnoresUserinfo) (h : w.Alike s s') :
    w.Agree Eq ((getDiscovery url).run out s)
      ((getDiscovery (w.disguise.place url)).run out s') := by
  refine (agree_usableDiscovery h).bind fun {cache cache' _ _} hcache h => ?_
  refine (Agree.now h).bind fun {moment _ _ _} hmoment h => ?_
  subst hmoment
  rw [hcache.live?_eq]
  cases cache.live? url moment with
  | some document => exact .pure rfl h
  | none => exact agree_fetchDiscovery url ho h

end Retrievals
end Comparison
end TokenTrust

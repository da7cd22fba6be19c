/-
# Whose token it is

The audience check of XSUAA makes a list of names out of a token, each name once, and compares them
with what the applications are known by.  What matters of the list is a relation between a token and
a name (`Identity.Named`): some entry of the audience has that name, or the audience lists nothing
and some scope with a dot has it.  A relation knows no order and no repetition, so it is of no
consequence that entries are dropped where they occur twice, both before the names are taken and
after.

A token is then meant for an application in one of five ways (`Identity.Meant`), and the check
accepts it exactly if it is meant for one of the applications (`Identity.check_eq_ok_iff`).  The
rest is read off from this: the applications may be asked one at a time and in any order, and what a
token lists may stand in any order and be repeated (`Identity.valid_iff_meant`).

The name of an entry ends before the first dot and has no blanks around it, while the identifiers of
an application are compared as they are.  So only an identifier without a dot and without blanks
around it is its own name (`Identity.nameOf_eq_self_iff`), and an audience that lists such a one is
accepted whatever else the token says (`ChainOptions.configured_identifier_accepted`).
-/
import TokenTrust.Check.Builder
import TokenTrust.Proofs.Places
import TokenTrust.Proofs.Token

namespace TokenTrust

/-! ## 1. Names -/

namespace Identity

variable {t t' : Token} {name entry id : String} {i : Identity} {identities : List Identity}

theorem dot_not_mem_nameOf (entry : String) : '.' ∉ (nameOf entry).toList := by
  intro hdot
  rw [nameOf, Text.trim, String.toList_ofList] at hdot
  exact Text.not_mem_before '.' entry (Text.mem_of_mem_strip hdot)

/-- **A text is its own name** if there is no dot in it and there are no blanks around it. -/
theorem nameOf_eq_self_iff : nameOf id = id ↔ '.' ∉ id.toList ∧ Text.trim id = id := by
  constructor
  · intro h
    constructor
    · rw [← h]
      exact dot_not_mem_nameOf id
    · rw [← h, nameOf, Text.trim_trim]
  · rintro ⟨hdot, htrim⟩
    rw [nameOf, Text.before_of_not_mem hdot, htrim]

/-- **An entry counts as an audience**: the audience lists it, or the audience lists nothing, and it
is a scope with a dot. -/
inductive Counts (t : Token) (entry : String) : Prop
  | audience (h : t.Lists "aud" entry)
  | scope (hnone : ∀ other, ¬ t.Lists "aud" other) (h : t.Lists "scope" entry)
    (hdot : '.' ∈ entry.toList)

/-- **A token names an application**: that is the name of some entry that counts, and not an empty
one. -/
def Named (t : Token) (name : String) : Prop :=
  ∃ entry, Counts t entry ∧ nameOf entry = name ∧ name ≠ ""

theorem mem_candidates_iff : entry ∈ candidates t ↔ Counts t entry := by
  rw [candidates]
  constructor
  · intro hentry
    split at hentry
    · next hempty =>
      obtain ⟨hscope, hdot⟩ := List.mem_filter.mp hentry
      exact .scope (Token.isEmpty_audiences_iff.mp hempty) (Token.mem_claimStrings_iff.mp hscope)
        (List.contains_iff_mem.mp hdot)
    · exact .audience (Token.mem_audiences_iff.mp hentry)
  · intro h
    cases h with
    | audience h =>
      have hfull : ¬ t.audiences.isEmpty := fun hempty => Token.isEmpty_audiences_iff.mp hempty _ h
      rw [if_neg hfull]
      exact Token.mem_audiences_iff.mpr h
    | scope hnone h hdot =>
      rw [if_pos (Token.isEmpty_audiences_iff.mpr hnone)]
      exact List.mem_filter.mpr
        ⟨Token.mem_claimStrings_iff.mpr h, List.contains_iff_mem.mpr hdot⟩

/-- The names that are compared are those that the token names. -/
theorem mem_audiences_iff : name ∈ audiences t ↔ Named t name := by
  rw [audiences, Token.mem_distinct_iff, List.mem_filter, List.mem_map]
  simp only [mem_candidates_iff, Named, decide_eq_true_eq]
  constructor
  · rintro ⟨⟨entry, hcounts, hname⟩, hne⟩
    exact ⟨entry, hcounts, hname, hne⟩
  · rintro ⟨entry, hcounts, hname, hne⟩
    exact ⟨⟨entry, hcounts, hname⟩, hne⟩

/-- **There is no dot in a name.** -/
theorem Named.dot_not_mem (h : Named t name) : '.' ∉ name.toList := by
  obtain ⟨entry, -, rfl, -⟩ := h
  exact dot_not_mem_nameOf entry

/-- What counts does not depend on how the audience and the scopes are written down, only on what
they list. -/
theorem Counts.congr (haud : ∀ text, t.Lists "aud" text ↔ t'.Lists "aud" text)
    (hscope : ∀ text, t.Lists "scope" text ↔ t'.Lists "scope" text) (h : Counts t entry) :
    Counts t' entry := by
  cases h with
  | audience h => exact .audience ((haud _).mp h)
  | scope hnone h hdot =>
    have hnone' : ∀ other, ¬ t'.Lists "aud" other := fun other hother =>
      hnone other ((haud other).mpr hother)
    exact .scope hnone' ((hscope _).mp h) hdot

theorem Named.congr (haud : ∀ text, t.Lists "aud" text ↔ t'.Lists "aud" text)
    (hscope : ∀ text, t.Lists "scope" text ↔ t'.Lists "scope" text) (h : Named t name) :
    Named t' name := by
  obtain ⟨entry, hcounts, hname⟩ := h
  exact ⟨entry, hcounts.congr haud hscope, hname⟩

/-! ## 2. Applications -/

/-- **A token is meant for an application**: it was issued to that, or to a clone of the broker that
it is, or it names the application, by its id, by its client id, or by its client id without what
comes after the first exclamation mark. -/
inductive Meant (i : Identity) (t : Token) : Prop
  | client (h : t.IssuedTo i.clientId)
  | clone {client : String} (h : t.IssuedTo client) (hbroker : brokerMark <:+: i.appId.toList)
    (hends : '|' :: i.appId.toList <:+ client.toList)
  | appId (h : Named t i.appId)
  | clientId (h : Named t i.clientId)
  | shortId (h : Named t (Text.before '!' i.clientId))

theorem isCloneOf_iff {appId client : String} : isCloneOf appId client = true ↔
    brokerMark <:+: appId.toList ∧ '|' :: appId.toList <:+ client.toList := by
  rw [isCloneOf, Bool.and_eq_true, Text.occurs_iff_infix, List.isSuffixOf_iff_suffix]

theorem accepts_iff : i.accepts t.clientId? (audiences t) = true ↔ i.Meant t := by
  rw [accepts, Bool.or_eq_true, Bool.or_eq_true, beq_iff_eq, Token.clientId?_eq_some_iff,
    Option.any_eq_true, List.any_eq_true]
  constructor
  · rintro ((h | ⟨client, hclient, hclone⟩) | ⟨name, hname, hsame⟩)
    · exact .client h
    · obtain ⟨hbroker, hends⟩ := isCloneOf_iff.mp hclone
      exact .clone (Token.clientId?_eq_some_iff.mp hclient) hbroker hends
    · have hnamed := mem_audiences_iff.mp hname
      simp only [Bool.or_eq_true, beq_iff_eq] at hsame
      rcases hsame with (rfl | rfl) | rfl
      · exact .appId hnamed
      · exact .clientId hnamed
      · exact .shortId hnamed
  · intro h
    cases h with
    | client h => exact Or.inl (Or.inl h)
    | clone h hbroker hends =>
      exact Or.inl (Or.inr
        ⟨_, Token.clientId?_eq_some_iff.mpr h, isCloneOf_iff.mpr ⟨hbroker, hends⟩⟩)
    | appId h => exact Or.inr ⟨_, mem_audiences_iff.mpr h, by simp⟩
    | clientId h => exact Or.inr ⟨_, mem_audiences_iff.mpr h, by simp⟩
    | shortId h => exact Or.inr ⟨_, mem_audiences_iff.mpr h, by simp⟩

/-- **The check accepts a token exactly if it is meant for one of the applications.** -/
theorem check_eq_ok_iff : check identities t = .ok () ↔ ∃ i ∈ identities, i.Meant t := by
  have hany : (identities.any fun i => i.accepts t.clientId? (audiences t)) = true ↔
      ∃ i ∈ identities, i.Meant t := by
    simp only [List.any_eq_true, accepts_iff]
  rw [check, ← hany]
  split <;> simp [*]

theorem Meant.congr (haud : ∀ text, t.Lists "aud" text ↔ t'.Lists "aud" text)
    (hscope : ∀ text, t.Lists "scope" text ↔ t'.Lists "scope" text)
    (hclient : ∀ client, t.IssuedTo client ↔ t'.IssuedTo client) (h : i.Meant t) : i.Meant t' := by
  cases h with
  | client h => exact .client ((hclient _).mp h)
  | clone h hbroker hends => exact .clone ((hclient _).mp h) hbroker hends
  | appId h => exact .appId (h.congr haud hscope)
  | clientId h => exact .clientId (h.congr haud hscope)
  | shortId h => exact .shortId (h.congr haud hscope)

/-- **The audience check decides whom a token is meant for.**

* It always answers, changes nothing, and finds a token valid exactly if that is meant for one of
  the applications.
* So a token is accepted for several applications exactly if it is accepted for one of them, and
  neither their order nor an application that is there twice makes a difference.
* Two tokens that were issued to the same client, and whose audiences and scopes list the same
  texts, are accepted or refused together, in whatever order and however often those are listed. -/
theorem valid_iff_meant :
    (∀ identities t out s, ∃ verdict,
      (Validator.ofCheck (check identities) t).run out s = (.ok verdict, s) ∧
        (verdict = .valid ↔ ∃ i ∈ identities, i.Meant t)) ∧
    (∀ identities t, check identities t = .ok () ↔ ∃ i ∈ identities, check [i] t = .ok ()) ∧
    (∀ identities identities', (∀ i, i ∈ identities ↔ i ∈ identities') →
      ∀ t, check identities t = .ok () ↔ check identities' t = .ok ()) ∧
    ∀ t t' : Token, (∀ text, t.Lists "aud" text ↔ t'.Lists "aud" text) →
      (∀ text, t.Lists "scope" text ↔ t'.Lists "scope" text) →
      (∀ client, t.IssuedTo client ↔ t'.IssuedTo client) →
      ∀ identities, check identities t = .ok () ↔ check identities t' = .ok () := by
  simp only [check_eq_ok_iff]
  refine ⟨fun identities t out s => ?_, fun identities t => by simp,
    fun identities identities' hsame t => by simp only [hsame],
    fun t t' haud hscope hclient identities => ?_⟩
  · refine ⟨Verdict.ofCheck (check identities t), rfl, ?_⟩
    rw [← check_eq_ok_iff]
    cases check identities t with
    | ok => simp [Verdict.ofCheck]
    | error e => simp [Verdict.ofCheck, Verdict.ofError]
  · constructor
    · rintro ⟨i, hi, h⟩
      exact ⟨i, hi, h.congr haud hscope hclient⟩
    · rintro ⟨i, hi, h⟩
      exact ⟨i, hi, h.congr (fun text => (haud text).symm) (fun text => (hscope text).symm)
        fun client => (hclient client).symm⟩

/-- The second audience is the first one in another order, with an entry twice and one that is no
text. -/
theorem valid_iff_meant_reordered :
    let issued (audience : List Json.Value) : Token := ⟨"", 0, [], [("aud", .array audience)], []⟩
    let t := issued [.string "uaa", .string "app.Read"]
    let t' := issued [.string "app.Read", .null, .string "uaa", .string "app.Read"]
    let identities : List Identity := [⟨"other", "client"⟩, ⟨"app", "sb-app"⟩]
    check identities t = .ok () ∧ check identities t' = .ok () := by
  intro issued t t' identities
  have haud : ∀ text, t.Lists "aud" text ↔ t'.Lists "aud" text := by
    intro text
    have ht : t.claimStrings "aud" = ["uaa", "app.Read"] := rfl
    have ht' : t'.claimStrings "aud" = ["app.Read", "uaa", "app.Read"] := rfl
    rw [← Token.mem_claimStrings_iff, ← Token.mem_claimStrings_iff, ht, ht']
    simp only [List.mem_cons, List.not_mem_nil]
    tauto
  have hnamed : Named t "app" :=
    ⟨_, .audience (.among rfl (List.mem_cons_of_mem _ List.mem_cons_self)), by decide, by decide⟩
  have hmeant : ∃ i ∈ identities, i.Meant t :=
    ⟨_, List.mem_cons_of_mem _ List.mem_cons_self, .appId hnamed⟩
  have hok : check identities t = .ok () := check_eq_ok_iff.mpr hmeant
  have hscope : ∀ text, t.Lists "scope" text ↔ t'.Lists "scope" text := by
    intro text
    rw [← Token.mem_claimStrings_iff, ← Token.mem_claimStrings_iff]
    rfl
  have hclient : ∀ client, t.IssuedTo client ↔ t'.IssuedTo client := by
    intro client
    rw [← Token.clientId?_eq_some_iff, ← Token.clientId?_eq_some_iff]
    rfl
  obtain ⟨-, -, -, hsame⟩ := valid_iff_meant
  exact ⟨hok, (hsame t t' haud hscope hclient identities).mp hok⟩

end Identity

/-! ## 3. Identifiers of a configuration -/

namespace Config.Draft

/-- **No identifier of a configuration is empty.** -/
theorem ne_empty_of_build {d : Draft} {c : Config} (h : d.build = .ok c) :
    c.clientId ≠ "" ∧ ∀ appId, c.appId = some appId → appId ≠ "" := by
  obtain ⟨clientId, address, url, hclient, -, -, -, rfl⟩ := build_eq_ok_iff.mp h
  obtain ⟨-, hink⟩ := Option.filter_eq_some_iff.mp hclient
  refine ⟨?_, fun appId happ => ?_⟩
  · rintro rfl
    simp [Text.hasInk] at hink
  · obtain ⟨-, hne⟩ := Option.filter_eq_some_iff.mp happ
    simpa using hne

end Config.Draft

namespace ChainOptions

variable {o : ChainOptions}

/-- The configurations that tokens are accepted for. -/
def instances (o : ChainOptions) : List Config :=
  o.config :: o.other.toList

theorem identity_eq_ok_iff {what : String} {c : Config} {i : Identity} :
    identity what c = .ok i ↔ c.appId = some i.appId ∧ c.clientId = i.clientId := by
  obtain ⟨appId, clientId⟩ := i
  rw [identity]
  cases c.appId <;> simp [lacks]

/-- **The applications that the check asks about are the configured ones.** -/
theorem mem_identities_iff {identities : List Identity} {i : Identity}
    (h : o.identities = .ok identities) :
    i ∈ identities ↔ ∃ c ∈ o.instances, c.appId = some i.appId ∧ c.clientId = i.clientId := by
  rw [ChainOptions.identities, bind_eq_ok_iff] at h
  obtain ⟨first, hfirst, h⟩ := h
  obtain ⟨hfirst, hfirst'⟩ := identity_eq_ok_iff.mp hfirst
  have hsame : ∀ j : Identity, i = j ↔ j.appId = i.appId ∧ j.clientId = i.clientId := by
    intro j
    cases i
    cases j
    simp [eq_comm]
  rw [instances]
  cases hother : o.other with
  | none =>
    rw [hother] at h
    obtain rfl := Except.ok.inj h
    simp [hfirst, hfirst', hsame]
  | some other =>
    simp only [hother, bind_eq_ok_iff] at h
    obtain ⟨second, hsecond, h⟩ := h
    obtain ⟨hsecond, hsecond'⟩ := identity_eq_ok_iff.mp hsecond
    obtain rfl := Except.ok.inj h
    simp [hfirst, hfirst', hsecond, hsecond', hsame]

/-- With an application id in each configuration, there is a check. -/
theorem exists_identities (happ : ∀ c ∈ o.instances, c.appId ≠ none) :
    ∃ identities, o.identities = .ok identities := by
  have hidentity : ∀ c ∈ o.instances, ∃ i, ∀ what, identity what c = .ok i := by
    intro c hc
    obtain ⟨appId, hid⟩ := Option.ne_none_iff_exists'.mp (happ c hc)
    exact ⟨⟨appId, c.clientId⟩, fun what => identity_eq_ok_iff.mpr ⟨hid, rfl⟩⟩
  obtain ⟨first, hfirst⟩ := hidentity o.config List.mem_cons_self
  cases hother : o.other with
  | none => exact ⟨[first], bind_eq_ok_iff.mpr ⟨first, hfirst _, by rw [hother]; rfl⟩⟩
  | some other =>
    obtain ⟨second, hsecond⟩ := hidentity other (by simp [instances, hother])
    refine ⟨[first, second], bind_eq_ok_iff.mpr ⟨first, hfirst _, ?_⟩⟩
    rw [hother]
    exact bind_eq_ok_iff.mpr ⟨second, hsecond _, rfl⟩

/-- **A configured identifier is an audience that is always accepted**, if it can be the name of an
entry.

* With an application id in each configuration, there is an audience check of XSUAA.
* That finds a token valid whose audience lists the application id, or the client id, of one of the
  configurations, whatever else the token says, if the identifier has no dot and no blanks around
  it.
* An identifier with a dot is never the name of an entry, since a name ends before the first dot. -/
theorem configured_identifier_accepted (hservice : o.config.service = .xsuaa)
    (hinstances : ∀ c ∈ o.instances, (∃ d : Config.Draft, d.build = .ok c) ∧ c.appId ≠ none) :
    (∃ audience, o.defaultAudience = .ok audience ∧
      ∀ c ∈ o.instances, ∀ id, c.appId = some id ∨ c.clientId = id →
        '.' ∉ id.toList → Text.trim id = id →
        ∀ t : Token, t.Lists "aud" id → ∀ out s, (audience t).run out s = (.ok .valid, s)) ∧
    ∀ id, '.' ∈ id.toList → ∀ t, ¬ Identity.Named t id := by
  refine ⟨?_, fun id hdot t h => h.dot_not_mem hdot⟩
  obtain ⟨identities, hids⟩ := exists_identities fun c hc => (hinstances c hc).2
  refine ⟨Validator.ofCheck (Identity.check identities), ?_, ?_⟩
  · rw [defaultAudience, hservice]
    exact bind_eq_ok_iff.mpr ⟨_, hids, rfl⟩
  · intro c hc id hid hdot htrim t haud out s
    obtain ⟨⟨d, hd⟩, happ⟩ := hinstances c hc
    obtain ⟨appId, happ⟩ := Option.ne_none_iff_exists'.mp happ
    obtain ⟨hclient, hne⟩ := Config.Draft.ne_empty_of_build hd
    have hname : Identity.nameOf id = id := Identity.nameOf_eq_self_iff.mpr ⟨hdot, htrim⟩
    have hmem : ⟨appId, c.clientId⟩ ∈ identities := (mem_identities_iff hids).mpr ⟨c, hc, happ, rfl⟩
    have hmeant : Identity.Meant ⟨appId, c.clientId⟩ t := by
      rcases hid with hid | rfl
      · obtain rfl := Option.some.inj (happ.symm.trans hid)
        exact .appId ⟨_, .audience haud, hname, hne _ happ⟩
      · exact .clientId ⟨_, .audience haud, hname, hclient⟩
    have hok : Identity.check identities t = .ok () :=
      Identity.check_eq_ok_iff.mpr ⟨_, hmem, hmeant⟩
    change (Except.ok (Verdict.ofCheck (Identity.check identities t)), s) = (.ok .valid, s)
    rw [hok]
    rfl

/-- The audience lists the client id of the second configuration among other things, and the token
was issued to somebody else. -/
theorem configured_identifier_accepted_second :
    let draft (clientId appId : String) : Config.Draft :=
      { service := .xsuaa, clientId := some clientId, url := some "https://my.auth.com",
        appId := some appId }
    let place : Url := ⟨"https", some ⟨"", none, some (.domain "my.auth.com"), none⟩,
      .segments [""], none, none⟩
    let config (clientId appId : String) : Config :=
      ⟨.xsuaa, clientId, none, place, none, some appId, []⟩
    let o : ChainOptions :=
      { config := config "sb-app!t1" "app!t1", other := some (config "sb-new!t2" "new!t2") }
    let t : Token := ⟨"", 0, [],
      [("aud", .array [.string "uaa.user", .string "sb-new!t2"]), ("cid", .string "guest")], []⟩
    (draft "sb-app!t1" "app!t1").build = .ok (config "sb-app!t1" "app!t1") ∧
      (draft "sb-new!t2" "new!t2").build = .ok (config "sb-new!t2" "new!t2") ∧
      ∃ audience, o.defaultAudience = .ok audience ∧
        ∀ out s, (audience t).run out s = (.ok .valid, s) := by
  intro draft place config o t
  have hfirst : (draft "sb-app!t1" "app!t1").build = .ok (config "sb-app!t1" "app!t1") := by
    decide +kernel
  have hsecond : (draft "sb-new!t2" "new!t2").build = .ok (config "sb-new!t2" "new!t2") := by
    decide +kernel
  have hinstances : ∀ c ∈ o.instances, (∃ d : Config.Draft, d.build = .ok c) ∧ c.appId ≠ none := by
    intro c hc
    have hc : c = config "sb-app!t1" "app!t1" ∨ c = config "sb-new!t2" "new!t2" := by
      simpa [instances, o] using hc
    rcases hc with rfl | rfl
    · exact ⟨⟨_, hfirst⟩, by simp [config]⟩
    · exact ⟨⟨_, hsecond⟩, by simp [config]⟩
  have haud : t.Lists "aud" "sb-new!t2" := .among rfl (List.mem_cons_of_mem _ List.mem_cons_self)
  obtain ⟨⟨audience, haudience, haccepts⟩, -⟩ := configured_identifier_accepted rfl hinstances
  exact ⟨hfirst, hsecond, audience, haudience,
    haccepts _ (List.mem_cons_of_mem _ List.mem_cons_self) _ (Or.inr rfl) (by decide) (by decide) t
      haud⟩

/-- A dot, or a blank at an end, makes an identifier that no entry names, not even the identifier
itself. -/
theorem configured_identifier_refused :
    let draft (appId : String) : Config.Draft :=
      { service := .xsuaa, clientId := some "client", url := some "https://my.auth.com",
        appId := some appId }
    let t (audience : String) : Token := ⟨"", 0, [], [("aud", .string audience)], []⟩
    let refused (id : String) : Prop := ∃ config audience, (draft id).build = .ok config ∧
      config.appId = some id ∧
      ({ config := config } : ChainOptions).defaultAudience = .ok audience ∧
      ∀ out s, ∃ description, (audience (t id)).run out s = (.ok (.invalid description), s)
    refused "my.app" ∧ refused " app" := by
  intro draft t refused
  let place : Url := ⟨"https", some ⟨"", none, some (.domain "my.auth.com"), none⟩,
    .segments [""], none, none⟩
  let config (id : String) : Config := ⟨.xsuaa, "client", none, place, none, some id, []⟩
  have hrefused : ∀ id e, (draft id).build = .ok (config id) →
      Identity.check [⟨id, "client"⟩] (t id) = .error e → refused id := by
    intro id e hbuild hcheck
    refine ⟨config id, Validator.ofCheck (Identity.check [⟨id, "client"⟩]), hbuild, rfl, rfl,
      fun out s => ⟨e.message, ?_⟩⟩
    change (Except.ok (Verdict.ofCheck (Identity.check _ (t id))), s) = _
    rw [hcheck]
    rfl
  exact ⟨hrefused _ _ (by decide +kernel) rfl, hrefused _ _ (by decide +kernel) rfl⟩

end ChainOptions
end TokenTrust

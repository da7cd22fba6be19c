/-
# What scopes count for

Where a token has no audience, its scopes stand in for one.  Whether they do is decided by what the
audience lists and not by whether there is one.  An audience that is an empty list, or null, or a
number, lists no text, and the token is judged as if it had none, so its scopes count
(`Identity.candidates_without`).  An audience that lists a text, whatever it lists besides, is all
that counts, and the scopes are not looked at (`Identity.candidates_congr`).

So of tokens with one audience and one client, the scopes can make a difference only where that
audience lists nothing.  There they do, unless the token is accepted for its client whatever it says
(`Identity.scopes_count_iff_unlisted`): a description tells which names the scopes have, and one
scope is enough to let a token in.
-/
import TokenTrust.Proofs.Audience
import TokenTrust.Proofs.Dates

namespace TokenTrust

/-! ## 1. Tokens with other scopes -/

namespace Json.Members

/-- What was put under a name is found there. -/
theorem get?_insert_self (ms : Members) (name : String) (v : Value) :
    (ms.insert name v).get? name = some v := by
  induction ms with
  | nil => simp [insert, get?]
  | cons m ms ih =>
    obtain ⟨n, w⟩ := m
    rw [insert]
    split
    · simp [get?]
    · split
      · simp [get?]
      · next hne =>
        have hother : (n == name) = false := by simpa using Ne.symm hne
        rw [get?, List.find?_cons_of_neg (by simpa using hother)]
        exact ih

/-- Under other names nothing changes. -/
theorem get?_insert_of_ne (ms : Members) {name other : String} (v : Value) (h : other ≠ name) :
    (ms.insert name v).get? other = ms.get? other := by
  have hskip : ∀ rest : Members, get? ((name, v) :: rest) other = get? rest other := by
    intro rest
    rw [get?, List.find?_cons_of_neg (by simpa using Ne.symm h), get?]
  induction ms with
  | nil => exact hskip []
  | cons m ms ih =>
    obtain ⟨n, w⟩ := m
    rw [insert]
    split
    · exact hskip _
    · split
      · next heq =>
        subst heq
        rw [hskip, get?, get?, List.find?_cons_of_neg (by simpa using Ne.symm h)]
      · by_cases hn : n = other
        · simp [get?, hn]
        · have hpass : ∀ rest : Members, get? ((n, w) :: rest) other = get? rest other := by
            intro rest
            rw [get?, List.find?_cons_of_neg (by simpa using hn), get?]
          rw [hpass, hpass]
          exact ih

end Json.Members

namespace Token

/-- A token with one scope, in place of those that it had. -/
def withScope (t : Token) (scope : String) : Token :=
  { t with claims := t.claims.insert "scope" (.string scope) }

theorem lists_withScope (t : Token) (scope : String) : (t.withScope scope).Lists "scope" scope :=
  .alone (Json.Members.get?_insert_self _ _ _)

theorem claim?_withScope_of_ne (t : Token) (scope : String) {name : String} (h : name ≠ "scope") :
    (t.withScope scope).claim? name = t.claim? name :=
  Json.Members.get?_insert_of_ne _ _ h

/-- **Two tokens are alike but for their scopes**, as far as it is asked whom they are meant for:
they have one audience, and they were issued to one client. -/
structure AlikeButScopes (t t' : Token) : Prop where
  audience : t.claim? "aud" = t'.claim? "aud"
  client : t.claim? "cid" = t'.claim? "cid"
  party : t.claim? "azp" = t'.claim? "azp"

variable {t t' : Token}

theorem AlikeButScopes.symm (h : t.AlikeButScopes t') : t'.AlikeButScopes t :=
  ⟨h.audience.symm, h.client.symm, h.party.symm⟩

theorem alike_withScope (t : Token) (scope : String) : t.AlikeButScopes (t.withScope scope) := by
  constructor <;> exact (t.claim?_withScope_of_ne scope (by decide)).symm

/-- What a claim lists is a matter of its value. -/
theorem claimStrings_congr {name : String} (h : t.claim? name = t'.claim? name) :
    t.claimStrings name = t'.claimStrings name := by
  rw [claimStrings, claimStrings, h]

theorem AlikeButScopes.audiences_eq (h : t.AlikeButScopes t') : t.audiences = t'.audiences := by
  rw [audiences, audiences, claimStrings_congr h.audience]

theorem AlikeButScopes.clientId?_eq (h : t.AlikeButScopes t') : t.clientId? = t'.clientId? := by
  rw [clientId?, clientId?, claimString?, claimString?, claimString?, claimString?, h.client,
    h.party]

/-- Taking an audience out that lists nothing leaves what the token lists. -/
theorem claimStrings_without (hnone : ∀ text, ¬ t.Lists "aud" text) (name : String) :
    (t.without "aud").claimStrings name = t.claimStrings name := by
  by_cases hname : name = "aud"
  · subst hname
    have hempty : t.claimStrings "aud" = [] := List.eq_nil_iff_forall_not_mem.mpr
      fun text htext => hnone text (mem_claimStrings_iff.mp htext)
    rw [hempty, claimStrings, claim?_without_self]
  · exact claimStrings_congr (claim?_without_of_ne t hname)

theorem clientId?_without : (t.without "aud").clientId? = t.clientId? := by
  have hcid : (t.without "aud").claim? "cid" = t.claim? "cid" :=
    claim?_without_of_ne t (by decide)
  have hazp : (t.without "aud").claim? "azp" = t.claim? "azp" :=
    claim?_without_of_ne t (by decide)
  rw [clientId?, clientId?, claimString?, claimString?, claimString?, claimString?, hcid, hazp]

end Token

/-! ## 2. Where scopes count -/

namespace Identity

variable {t t' : Token} {identities : List Identity} {i : Identity}

/-- The verdict is a matter of the entries that count and of the client. -/
theorem check_congr (hcandidates : candidates t = candidates t')
    (hclient : t.clientId? = t'.clientId?) (identities : List Identity) :
    check identities t = check identities t' := by
  have haudiences : audiences t = audiences t' := by rw [audiences, audiences, hcandidates]
  rw [check, check, haudiences, hclient]

/-- **An audience that lists a text is all that counts.** -/
theorem candidates_congr (h : t.AlikeButScopes t') (hlists : ∃ text, t.Lists "aud" text) :
    candidates t = candidates t' := by
  obtain ⟨text, htext⟩ := hlists
  have hfull : ¬ t.audiences.isEmpty := fun hempty =>
    Token.isEmpty_audiences_iff.mp hempty text htext
  have hfull' : ¬ t'.audiences.isEmpty := h.audiences_eq ▸ hfull
  rw [candidates, candidates, if_neg hfull, if_neg hfull', h.audiences_eq]

/-- **An audience that lists nothing is none.** -/
theorem candidates_without (hnone : ∀ text, ¬ t.Lists "aud" text) :
    candidates (t.without "aud") = candidates t := by
  have haudiences : (t.without "aud").audiences = t.audiences := by
    rw [Token.audiences, Token.audiences, Token.claimStrings_without hnone]
  have hscopes : (t.without "aud").scopes = t.scopes := by
    rw [Token.scopes, Token.scopes, Token.claimStrings_without hnone]
  rw [candidates, candidates, haudiences, hscopes]

/-- A scope names an application if that is what stands before its dot. -/
theorem nameOf_append_dot {name : String} (h : nameOf name = name) :
    nameOf (name ++ ".") = name := by
  obtain ⟨hdot, htrim⟩ := nameOf_eq_self_iff.mp h
  have hbefore : Text.before '.' (name ++ ".") = name := by
    have hall : ∀ c ∈ name.toList, (c != '.') = true := by
      intro c hc
      rw [bne_iff_ne]
      rintro rfl
      exact hdot hc
    have hstop : ['.'].takeWhile (· != '.') = [] := by decide
    rw [Text.before, String.toList_append, List.takeWhile_append_of_pos hall]
    change String.ofList (name.toList ++ ['.'].takeWhile (· != '.')) = name
    rw [hstop, List.append_nil, String.ofList_toList]
  rw [nameOf, hbefore, htrim]

/-- **One scope lets a token in** whose audience lists nothing. -/
theorem meant_withScope (hnone : ∀ text, ¬ t.Lists "aud" text)
    (hname : nameOf i.appId = i.appId) (hne : i.appId ≠ "") :
    i.Meant (t.withScope (i.appId ++ ".")) := by
  have hnone' : ∀ text, ¬ (t.withScope (i.appId ++ ".")).Lists "aud" text := by
    intro text htext
    have hsame : (t.withScope (i.appId ++ ".")).claimStrings "aud" = t.claimStrings "aud" :=
      Token.claimStrings_congr (t.claim?_withScope_of_ne _ (by decide))
    rw [← Token.mem_claimStrings_iff, hsame, Token.mem_claimStrings_iff] at htext
    exact hnone text htext
  have hdot : '.' ∈ (i.appId ++ ".").toList := by
    rw [String.toList_append]
    exact List.mem_append_right _ (by decide)
  have hcounts : Counts (t.withScope (i.appId ++ ".")) (i.appId ++ ".") :=
    .scope hnone' (t.lists_withScope _) hdot
  exact .appId ⟨_, hcounts, nameOf_append_dot hname, hne⟩

/-- **A token was issued to an application**, or to a clone of the broker that it is. -/
inductive Client (i : Identity) (t : Token) : Prop
  | same (h : t.IssuedTo i.clientId)
  | clone {client : String} (h : t.IssuedTo client) (hbroker : brokerMark <:+: i.appId.toList)
    (hends : '|' :: i.appId.toList <:+ client.toList)

theorem Client.meant (h : i.Client t) : i.Meant t := by
  cases h with
  | same h => exact .client h
  | clone h hbroker hends => exact .clone h hbroker hends

theorem Client.congr (halike : t.AlikeButScopes t') (h : i.Client t) : i.Client t' := by
  have hissued {client : String} (h : t.IssuedTo client) : t'.IssuedTo client := by
    rw [← Token.clientId?_eq_some_iff] at h ⊢
    rw [← halike.clientId?_eq, h]
  cases h with
  | same h => exact .same (hissued h)
  | clone h hbroker hends => exact .clone (hissued h) hbroker hends

/-- Whoever a token was not issued to has to be named in it. -/
theorem Meant.client_or_named (h : i.Meant t) : i.Client t ∨ ∃ name, Named t name := by
  cases h with
  | client h => exact Or.inl (.same h)
  | clone h hbroker hends => exact Or.inl (.clone h hbroker hends)
  | appId h => exact Or.inr ⟨_, h⟩
  | clientId h => exact Or.inr ⟨_, h⟩
  | shortId h => exact Or.inr ⟨_, h⟩

/-- Where the audience lists nothing, one scope gives one name or none. -/
theorem audiences_withScope (hnone : ∀ text, ¬ t.Lists "aud" text) (scope : String) :
    audiences (t.withScope scope) =
      Token.distinct ((([scope].filter (·.toList.contains '.')).map nameOf).filter (· ≠ "")) := by
  have hempty : (t.withScope scope).audiences.isEmpty := by
    rw [← (t.alike_withScope scope).audiences_eq]
    exact Token.isEmpty_audiences_iff.mpr hnone
  have hscopes : (t.withScope scope).scopes = [scope] := by
    rw [Token.scopes, Token.claimStrings, Token.claim?]
    unfold Token.withScope
    rw [Json.Members.get?_insert_self]
    rfl
  rw [audiences, candidates, if_pos hempty, hscopes]

theorem ofCheck_eq_valid_iff :
    Verdict.ofCheck (check identities t) = .valid ↔ ∃ i ∈ identities, i.Meant t := by
  rw [← check_eq_ok_iff]
  cases check identities t with
  | ok => simp [Verdict.ofCheck]
  | error e => simp [Verdict.ofCheck, Verdict.ofError]

/-- A refusal tells which names a token has. -/
theorem ofCheck_of_not_meant (h : ¬ ∃ i ∈ identities, i.Meant t) :
    Verdict.ofCheck (check identities t) = .invalid ("Jwt token with audience " ++
      Text.quoteList (audiences t) ++ " is not issued for these identifiers: " ++
      Text.quoteList (identities.flatMap fun i => [i.appId, i.clientId]) ++ ".") := by
  rw [← check_eq_ok_iff] at h
  have hrefused : ¬ (identities.any fun i => i.accepts t.clientId? (audiences t)) = true :=
    fun haccepts => h (if_pos haccepts)
  exact congrArg Verdict.ofCheck (if_neg hrefused)

/-- **Scopes make a difference** to a token whose audience lists nothing, unless it was issued to
one of the applications. -/
theorem listed_or_client (h : ∀ t', t.AlikeButScopes t' →
      Verdict.ofCheck (check identities t) = Verdict.ofCheck (check identities t')) :
    (∃ text, t.Lists "aud" text) ∨ ∃ i ∈ identities, i.Client t := by
  by_cases hlists : ∃ text, t.Lists "aud" text
  · exact Or.inl hlists
  by_cases hclient : ∃ i ∈ identities, i.Client t
  · exact Or.inr hclient
  have hnone : ∀ text, ¬ t.Lists "aud" text := not_exists.mp hlists
  let silent := t.withScope ""
  let telling := t.withScope "x."
  have hsame : Verdict.ofCheck (check identities silent) =
      Verdict.ofCheck (check identities telling) :=
    (h silent (t.alike_withScope "")).symm.trans (h telling (t.alike_withScope "x."))
  have hnothing : audiences silent = [] := audiences_withScope hnone ""
  -- what names nothing is refused, and so is what has the same verdict
  have hsilent : ¬ ∃ i ∈ identities, i.Meant silent := by
    rintro ⟨i, hi, hmeant⟩
    rcases hmeant.client_or_named with hissued | ⟨name, hname⟩
    · exact hclient ⟨i, hi, hissued.congr (t.alike_withScope "").symm⟩
    · rw [← mem_audiences_iff, hnothing] at hname
      exact List.not_mem_nil hname
  have htelling : ¬ ∃ i ∈ identities, i.Meant telling := by
    rwa [← ofCheck_eq_valid_iff, ← hsame, ofCheck_eq_valid_iff]
  -- but the descriptions tell them apart
  have hsomething : audiences telling = ["x"] := by
    rw [audiences_withScope hnone "x."]
    decide
  rw [ofCheck_of_not_meant hsilent, ofCheck_of_not_meant htelling, hnothing, hsomething,
    Verdict.invalid.injEq] at hsame
  have hquoted : Text.quoteList [] = Text.quoteList ["x"] := by simpa using hsame
  exact absurd hquoted (by decide)

/-- **Scopes count exactly where the audience lists nothing.**

* The verdict on a token is the one on all tokens that have the same audience and were issued to the
  same client, whatever their scopes and their other claims are, exactly if the audience lists a
  text, or the token was issued to one of the applications, so that it is accepted anyway.
* A token whose audience is there but lists nothing, whatever its value is, gets the verdict that it
  gets without an audience, its scopes included.
* Such a token is accepted for every application whose id can be a name, if only it has the right
  scope. -/
theorem scopes_count_iff_unlisted (t : Token) (identities : List Identity) :
    let verdict (t : Token) (out : Surroundings) (s : State) :=
      (Validator.ofCheck (check identities) t).run out s
    ((∀ t', t.AlikeButScopes t' → ∀ out s, verdict t out s = verdict t' out s) ↔
      (∃ text, t.Lists "aud" text) ∨ ∃ i ∈ identities, i.Client t) ∧
    ((∀ text, ¬ t.Lists "aud" text) →
      (∀ out s, verdict t out s = verdict (t.without "aud") out s) ∧
      ∀ i ∈ identities, nameOf i.appId = i.appId → i.appId ≠ "" →
        ∃ scope, t.AlikeButScopes (t.withScope scope) ∧
          ∀ out s, verdict (t.withScope scope) out s = (.ok .valid, s)) := by
  intro verdict
  have hrun : ∀ t out s, verdict t out s = (.ok (Verdict.ofCheck (check identities t)), s) :=
    fun _ _ _ => rfl
  refine ⟨⟨fun h => listed_or_client fun t' halike => ?_, ?_⟩, fun hnone => ⟨fun out s => ?_, ?_⟩⟩
  · have hsame := h t' halike ⟨fun n => n, 0, fun _ _ => .crash⟩ {}
    rw [hrun, hrun] at hsame
    exact Except.ok.inj (congrArg Prod.fst hsame)
  · rintro (hlists | ⟨i, hi, hclient⟩) t' halike out s
    · rw [hrun, hrun, check_congr (candidates_congr halike hlists) halike.clientId?_eq]
    · rw [hrun, hrun, check_eq_ok_iff.mpr ⟨i, hi, hclient.meant⟩,
        check_eq_ok_iff.mpr ⟨i, hi, (hclient.congr halike).meant⟩]
  · rw [hrun, hrun, check_congr (candidates_without hnone) Token.clientId?_without]
  · intro i hi hname hne
    refine ⟨i.appId ++ ".", t.alike_withScope _, fun out s => ?_⟩
    rw [hrun, check_eq_ok_iff.mpr ⟨i, hi, meant_withScope hnone hname hne⟩]
    rfl

/-- The audience lists a text among other things, and only one of the tokens has a scope that names
the application.  Next to it, an audience that is a number. -/
theorem scopes_count_iff_unlisted_number :
    let claiming (claims : Json.Members) : Token := ⟨"", 0, [], claims, []⟩
    let audience : Json.Value := .array [.null, .string "uaa.user"]
    let t := claiming [("aud", audience), ("scope", .array [.string "app.Read"])]
    let t' := claiming [("aud", audience), ("scope", .array [])]
    let u := claiming [("aud", .number (.int 5))]
    let identities : List Identity := [⟨"app", "client"⟩]
    (∀ out s, (Validator.ofCheck (check identities) t).run out s =
      (Validator.ofCheck (check identities) t').run out s) ∧
    (∀ out s, (Validator.ofCheck (check identities) u).run out s =
      (Validator.ofCheck (check identities) (u.without "aud")).run out s) ∧
    ∃ scope, ∀ out s, (Validator.ofCheck (check identities) (u.withScope scope)).run out s =
      (.ok .valid, s) := by
  intro claiming audience t t' u identities
  have halike : t.AlikeButScopes t' := ⟨rfl, rfl, rfl⟩
  have hlists : t.Lists "aud" "uaa.user" := .among rfl (by simp)
  have hnone : ∀ text, ¬ u.Lists "aud" text := by
    intro text htext
    rw [← Token.mem_claimStrings_iff] at htext
    exact List.not_mem_nil htext
  obtain ⟨hsame, -⟩ := scopes_count_iff_unlisted t identities
  obtain ⟨-, hunlisted⟩ := scopes_count_iff_unlisted u identities
  obtain ⟨hwithout, hscope⟩ := hunlisted hnone
  refine ⟨hsame.mpr (Or.inl ⟨_, hlists⟩) t' halike, hwithout, ?_⟩
  obtain ⟨scope, -, hvalid⟩ :=
    hscope ⟨"app", "client"⟩ (by simp [identities]) (by decide) (by decide)
  exact ⟨scope, hvalid⟩

/-- **An audience that is there does not keep scopes from counting.**  Both tokens have an empty
list as their audience and were issued to nobody.  One has a scope that names the application, and
it is accepted for that scope alone. -/
theorem admitted_by_scope_despite_audience :
    let identities : List Identity := [⟨"app", "client"⟩]
    ∃ t t' : Token, Token.parse "e30.eyJhdWQiOltdLCJzY29wZSI6WyJhcHAuUmVhZCJdfQ." = .ok t ∧
      Token.parse "e30.eyJhdWQiOltdfQ." = .ok t' ∧ t.claim? "aud" = some (.array []) ∧
      t.AlikeButScopes t' ∧
      ∀ out s, (Validator.ofCheck (check identities) t).run out s = (.ok .valid, s) ∧
        ∃ refusal,
          (Validator.ofCheck (check identities) t').run out s = (.ok (.invalid refusal), s) := by
  intro identities
  let t : Token := ⟨"e30.eyJhdWQiOltdLCJzY29wZSI6WyJhcHAuUmVhZCJdfQ.",
    46, [],
    [("aud", .array []), ("scope", .array [.string "app.Read"])], []⟩
  let t' : Token := ⟨"e30.eyJhdWQiOltdfQ.", 18, [], [("aud", .array [])], []⟩
  have ht : Token.parse "e30.eyJhdWQiOltdLCJzY29wZSI6WyJhcHAuUmVhZCJdfQ." = .ok t := by cbv
  have ht' : Token.parse "e30.eyJhdWQiOltdfQ." = .ok t' := by cbv
  refine ⟨t, t', ht, ht', rfl, ⟨rfl, rfl, rfl⟩, fun out s => ⟨rfl, _, rfl⟩⟩

end Identity
end TokenTrust

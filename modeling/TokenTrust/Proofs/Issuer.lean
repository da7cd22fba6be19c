/-
# Hosts decide, and of hosts their last labels

Two checks accept a URL for its host: the one of the issuer, and with XSUAA the one of the place
that a token names for its keys.  Both ask the same question, whether the host belongs to a domain,
and that is a relation of labels (`Domain.covers_iff_within`).

What is asked of an issuer is its host and nothing else (`Issuer.check_eq_ok_iff`).  So two issuers
with one host are accepted or refused together, however they are written, and only the wording of a
refusal, which repeats the issuer, tells them apart.  A text of nothing but blanks is no issuer.
-/
import TokenTrust.Check.Issuer
import TokenTrust.Proofs.Confinement

namespace TokenTrust

/-! ## 1. Issuers -/

namespace Issuer

variable {domain host host' issuer : String} {t : Token}

/-- **A token names the host of its issuer.**  With a scheme the issuer is a URL.  Without one it is
the part of a URL that starts at the host. -/
inductive Names (t : Token) (host : String) : Prop
  | url {issuer : String} {u : Url} (hissuer : t.claim? "iss" = some (.string issuer))
    (hink : Text.hasInk issuer = true) (hscheme : schemeEnd <:+: issuer.toList)
    (hparse : Url.parse issuer = .ok u) (hhost : u.hostText? = some host)
  | rest {issuer : String} {u : Url} (hissuer : t.claim? "iss" = some (.string issuer))
    (hink : Text.hasInk issuer = true) (hscheme : ¬ schemeEnd <:+: issuer.toList)
    (hparse : Url.parse ("https://" ++ issuer) = .ok u) (hhost : u.hostText? = some host)

/-- The host of a URL that may be none. -/
theorem bind_hostText?_eq_some_iff {r : Except Url.Fault Url} :
    r.toOption.bind Url.hostText? = some host ↔ ∃ u, r = .ok u ∧ u.hostText? = some host := by
  cases r with
  | error e => simp [Except.toOption]
  | ok u => simp [Except.toOption]

/-- The host that is looked at is the one that the token names. -/
theorem names_iff : Names t host ↔ ∃ issuer, t.claim? "iss" = some (.string issuer) ∧
    Text.hasInk issuer = true ∧ host? issuer = some host := by
  simp only [host?, bind_hostText?_eq_some_iff, Text.occurs_iff_infix]
  constructor
  · intro h
    cases h with
    | url hissuer hink hscheme hparse hhost =>
      refine ⟨_, hissuer, hink, _, ?_, hhost⟩
      rw [if_pos hscheme, hparse]
    | rest hissuer hink hscheme hparse hhost =>
      refine ⟨_, hissuer, hink, _, ?_, hhost⟩
      rw [if_neg hscheme, hparse]
  · rintro ⟨issuer, hissuer, hink, u, hparse, hhost⟩
    by_cases hscheme : schemeEnd <:+: issuer.toList
    · rw [if_pos hscheme] at hparse
      exact .url hissuer hink hscheme hparse hhost
    · rw [if_neg hscheme] at hparse
      exact .rest hissuer hink hscheme hparse hhost

/-- A token names one host at most. -/
theorem Names.unique (h : Names t host) (h' : Names t host') : host = host' := by
  obtain ⟨issuer, hissuer, -, hhost⟩ := names_iff.mp h
  obtain ⟨issuer', hissuer', -, hhost'⟩ := names_iff.mp h'
  rw [hissuer] at hissuer'
  cases hissuer'
  exact Option.some.inj (hhost.symm.trans hhost')

/-- **The host of the issuer decides, and it has to belong to the domain.** -/
theorem check_eq_ok_iff :
    check domain t = .ok () ↔ ∃ host, Names t host ∧ Domain.Within domain host := by
  simp only [names_iff, ← Token.claimString?_eq_some_iff]
  unfold check
  rw [Token.issuer?]
  cases t.claimString? "iss" with
  | none => simp
  | some issuer =>
    by_cases hink : Text.hasInk issuer = true
    · cases hhost : host? issuer with
      | none => simp [Option.filter, hink, hhost]
      | some host =>
        by_cases hcovers : Domain.covers domain host = true
        · have hwithin := Domain.covers_iff_within.mp hcovers
          simp [Option.filter, hink, hhost, hcovers, hwithin, pure, Except.pure]
        · have hwithin : ¬ Domain.Within domain host := Domain.covers_iff_within.not.mp hcovers
          simp [Option.filter, hink, hhost, hcovers, hwithin]
    · simp [Option.filter, hink]

/-- Issuers with one host are accepted or refused together. -/
theorem check_eq_ok_congr {t' : Token} (h : Names t host) (h' : Names t' host) :
    check domain t = .ok () ↔ check domain t' = .ok () := by
  rw [check_eq_ok_iff, check_eq_ok_iff]
  constructor
  · rintro ⟨other, hother, hwithin⟩
    exact ⟨host, h', h.unique hother ▸ hwithin⟩
  · rintro ⟨other, hother, hwithin⟩
    exact ⟨host, h, h'.unique hother ▸ hwithin⟩

end Issuer

/-! ## 2. Places of keys -/

namespace SignatureCheck

/-- **A place that a token names is accepted for its host too**, and that has to belong to a trusted
domain. -/
theorem exists_within_of_xsuaaSource {c : SignatureCheck} {t : Token} {address : String}
    {source : KeySource} (hj : t.keySetUrl? = some address)
    (h : c.xsuaaSource t = .ok source) :
    ∃ named host, Url.parse address = .ok named ∧ named.hostText? = some host ∧
      ∃ domain ∈ c.trustedDomains, Domain.Within domain host := by
  simp only [xsuaaSource, hj] at h
  cases hu : trustedUrl? c.trustedDomains address with
  | none => simp [hu] at h
  | some url =>
    obtain ⟨named, hparse, rfl, -, -, -, domain, hd, host, hhost, hwithin⟩ :=
      trustedUrl?_eq_some_iff.mp hu
    exact ⟨named, host, hparse, hhost, domain, hd, hwithin⟩

end SignatureCheck

/-! ## 3. What both of them ask -/

/-- **A host belongs to a domain by its last labels.**

* It does exactly if something is left of the domain without the dots at its end, and the labels of
  the domain, in lower case, are the last labels of the host.
* So a name belongs to itself unless it is nothing but dots, and what belongs to a name belongs to
  what that belongs to.  A host that merely ends in the same characters does not belong to a domain,
  and nothing belongs to a domain of dots alone.
* An issuer that is accepted, and a place of keys that is accepted, have a host with the labels of
  the configured domain, or of one of the trusted ones, at its end.
* Two tokens whose issuers have one host are accepted or refused together. -/
theorem Domain.decided_by_labels :
    (∀ domain host, covers domain host = true ↔
      comparable domain ≠ [] ∧ labels domain <:+ labels host) ∧
    (∀ name, covers name name = true ↔ ∃ c ∈ name.toList, c ≠ '.') ∧
    (∀ a b c, covers a b = true → covers b c = true → covers a c = true) ∧
    (∀ domain host before, comparable host = before ++ comparable domain → before ≠ [] →
      before.getLast? ≠ some '.' → covers domain host = false) ∧
    (∀ domain host, (∀ c ∈ domain.toList, c = '.') → covers domain host = false) ∧
    (∀ domain t, Issuer.check domain t = .ok () →
      ∃ host, Issuer.Names t host ∧ labels domain <:+ labels host) ∧
    (∀ (c : SignatureCheck) t address source, t.keySetUrl? = some address →
      c.xsuaaSource t = .ok source →
      ∃ named host, Url.parse address = .ok named ∧ named.hostText? = some host ∧
        ∃ domain ∈ c.trustedDomains, labels domain <:+ labels host) ∧
    ∀ domain t t' host, Issuer.Names t host → Issuer.Names t' host →
      (Issuer.check domain t = .ok () ↔ Issuer.check domain t' = .ok ()) := by
  simp only [← Bool.not_eq_true, covers_iff_within]
  refine ⟨fun domain host => ?_, fun name => within_self_iff, fun a b c => Within.trans,
    fun domain host before => not_within_of_lookalike,
    fun domain host h => not_within_of_dots h host, fun domain t h => ?_,
    fun c t address source hj h => ?_, fun domain t t' host => Issuer.check_eq_ok_congr⟩
  · constructor
    · rintro ⟨hnamed, hbelow⟩
      exact ⟨hnamed, hbelow⟩
    · rintro ⟨hnamed, hbelow⟩
      exact ⟨hnamed, hbelow⟩
  · obtain ⟨host, hnames, hwithin⟩ := Issuer.check_eq_ok_iff.mp h
    exact ⟨host, hnames, hwithin.below⟩
  · obtain ⟨named, host, hparse, hhost, domain, hd, hwithin⟩ :=
      SignatureCheck.exists_within_of_xsuaaSource hj h
    exact ⟨named, host, hparse, hhost, domain, hd, hwithin.below⟩

/-- One issuer is written as a URL with a user name, a port, a path and a query, and the other one
is a bare host in capitals. -/
theorem Domain.decided_by_labels_two_issuers :
    let issued (issuer : String) : Token := ⟨"", 0, [], [("iss", .string issuer)], []⟩
    let t := issued "http://user@login.auth.com:8080/oauth?zone=1"
    let t' := issued "LOGIN.auth.com"
    Issuer.check "auth.com" t = .ok () ∧ Issuer.check "auth.com" t' = .ok () := by
  intro issued t t'
  have hnames : Issuer.Names t "login.auth.com" :=
    Issuer.names_iff.mpr ⟨_, rfl, by decide, by decide +kernel⟩
  have hnames' : Issuer.Names t' "login.auth.com" :=
    Issuer.names_iff.mpr ⟨_, rfl, by decide, by decide +kernel⟩
  obtain ⟨-, -, -, -, -, -, -, hsame⟩ := Domain.decided_by_labels
  have hok : Issuer.check "auth.com" t = .ok () :=
    Issuer.check_eq_ok_iff.mpr ⟨_, hnames, Domain.covers_iff_within.mp (by decide)⟩
  exact ⟨hok, (hsame _ _ _ _ hnames hnames').mp hok⟩

end TokenTrust

/-
# What it means to belong to a domain

`Domain.covers` compares characters.  What it decides is a relation of labels: the labels of the
domain are the last labels of the host (`Domain.Within`), so a host is never cut in the middle
of a label.

The laws of the relation are those of lists that end alike.  A name belongs to itself and to
whatever it is below of, but nothing belongs to a domain without a label, and a host that has only
its last characters in common with a domain does not belong to it
(`Domain.not_within_of_lookalike`).
-/
import TokenTrust.Domain.Subdomain
import TokenTrust.Proofs.Text

namespace TokenTrust

/-! ## 1. Cuts and joins -/

namespace Text

variable {sep : Char}

/-- A separator cuts, whatever stands around it. -/
theorem cut_append_cons (cs ds : List Char) :
    cut sep (cs ++ sep :: ds) = cut sep cs ++ cut sep ds := by
  induction cs with
  | nil => simp [cut]
  | cons c cs ih =>
    rw [List.cons_append, cut, cut, ih]
    by_cases h : c = sep
    · simp only [h, if_true, List.cons_append]
    · simp only [h, if_false]
      obtain ⟨p, ps, hp⟩ := List.exists_cons_of_ne_nil (cut_ne_nil sep cs)
      simp only [hp, List.cons_append]

/-- Pieces that follow others are joined behind a separator. -/
theorem join_append {ps qs : List (List Char)} (hp : ps ≠ []) (hq : qs ≠ []) :
    join sep (ps ++ qs) = join sep ps ++ sep :: join sep qs := by
  induction ps with
  | nil => exact absurd rfl hp
  | cons p ps ih =>
    cases ps with
    | nil =>
      obtain ⟨q, qs', rfl⟩ := List.exists_cons_of_ne_nil hq
      rfl
    | cons p' ps =>
      have htail := ih (List.cons_ne_nil _ _)
      simp only [List.cons_append, join] at htail ⊢
      rw [htail, List.append_assoc, List.cons_append]

end Text

/-! ## 2. Labels -/

namespace Domain

/-- The labels of a name as it is compared. -/
def labels (name : String) : List (List Char) :=
  Text.cut '.' (comparable name)

/-- **A host is a domain or a name below it**: its last labels are those of the domain.  No host
belongs to an empty domain. -/
structure Within (domain host : String) : Prop where
  named : comparable domain ≠ []
  below : labels domain <:+ labels host

/-- What is compared: the host is the domain, or it ends in a dot and the domain. -/
theorem covers_iff_suffix {domain host : String} : covers domain host = true ↔
    comparable domain ≠ [] ∧
      (comparable host = comparable domain ∨ '.' :: comparable domain <:+ comparable host) := by
  simp [covers, List.isSuffixOf_iff_suffix]

/-- **Belonging to a domain is a matter of whole labels.** -/
theorem covers_iff_within {domain host : String} :
    covers domain host = true ↔ Within domain host := by
  rw [covers_iff_suffix]
  constructor
  · rintro ⟨hne, heq | ⟨p, hp⟩⟩
    · have hsame : labels host = labels domain := by rw [labels, labels, heq]
      refine ⟨hne, [], ?_⟩
      rw [List.nil_append, hsame]
    · refine ⟨hne, Text.cut '.' p, ?_⟩
      rw [labels, labels, ← hp, Text.cut_append_cons]
  · rintro ⟨hne, ps, hps⟩
    refine ⟨hne, ?_⟩
    have hjoin : Text.join '.' (ps ++ labels domain) = comparable host := by
      rw [hps, labels, Text.join_cut]
    cases ps with
    | nil =>
      rw [List.nil_append, labels, Text.join_cut] at hjoin
      exact Or.inl hjoin.symm
    | cons p ps =>
      rw [labels, Text.join_append (List.cons_ne_nil p ps) (Text.cut_ne_nil _ _),
        Text.join_cut] at hjoin
      exact Or.inr ⟨_, hjoin⟩

example : covers "example.com" "Login.Example.COM." = true := by decide

example : covers "example.com" "notexample.com" = false := by decide

/-! ## 3. Laws -/

/-- Something of a name is compared, unless it is nothing but dots. -/
theorem comparable_ne_nil_iff {name : String} :
    comparable name ≠ [] ↔ ∃ c ∈ name.toList, c ≠ '.' := by
  rw [comparable, Text.lower, Text.trimEnd, String.toList_ofList, String.toList_ofList, ne_eq,
    List.map_eq_nil_iff, Text.dropEnd_eq_rdropWhile, List.rdropWhile_eq_nil_iff]
  simp

/-- **A name belongs to itself**, unless it is nothing but dots. -/
theorem within_self_iff {name : String} : Within name name ↔ ∃ c ∈ name.toList, c ≠ '.' := by
  rw [← comparable_ne_nil_iff]
  exact ⟨Within.named, fun h => ⟨h, List.suffix_refl _⟩⟩

/-- **What is below a name below a domain is below the domain.** -/
theorem Within.trans {a b c : String} (h : Within a b) (h' : Within b c) : Within a c :=
  ⟨h.named, h.below.trans h'.below⟩

/-- **Nothing belongs to a domain that is nothing but dots.** -/
theorem not_within_of_dots {domain : String} (h : ∀ c ∈ domain.toList, c = '.') (host : String) :
    ¬ Within domain host := by
  rintro ⟨hnamed, -⟩
  obtain ⟨c, hc, hdot⟩ := comparable_ne_nil_iff.mp hnamed
  exact hdot (h c hc)

/-- **A host that merely ends in the characters of a domain does not belong to it**: what stands
before them has to end in a dot. -/
theorem not_within_of_lookalike {domain host : String} {before : List Char}
    (h : comparable host = before ++ comparable domain) (hne : before ≠ [])
    (hdot : before.getLast? ≠ some '.') : ¬ Within domain host := by
  rw [← covers_iff_within, covers_iff_suffix, h]
  rintro ⟨-, heq | ⟨p, hp⟩⟩
  · exact hne (List.self_eq_append_left.mp heq.symm)
  · rw [List.append_cons] at hp
    have hbefore : p ++ ['.'] = before := List.append_cancel_right hp
    rw [← hbefore, List.getLast?_concat] at hdot
    exact hdot rfl

end Domain
end TokenTrust

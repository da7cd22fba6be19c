/-
# Segments of a path

The text of a path is made of its segments, each behind a slash.  For paths that were read the
segments can be told from the text: no segment holds a slash of its own
(`slashless_readSegments`), because segments are what is left between slashes and percent encoding
brings in none.

So a text is the text of one list of segments (`slashed_inj`), and it ends in a slash exactly if
the last segment is empty (`getLast?_slashed_iff`).
-/
import Mathlib.Data.String.Basic
import TokenTrust.Proofs.Subdomain
import TokenTrust.Url.Parse

namespace TokenTrust
namespace Url

/-! ## 1. What is read -/

/-- **No piece holds a slash.** -/
def Slashless (ps : List (List Char)) : Prop :=
  ∀ p ∈ ps, '/' ∉ p

namespace Slashless

variable {p : List Char} {ps qs : List (List Char)}

theorem nil : Slashless [] :=
  fun _ hp => absurd hp List.not_mem_nil

theorem subset (h : Slashless qs) (hsub : ∀ p ∈ ps, p ∈ qs) : Slashless ps :=
  fun p hp => h p (hsub p hp)

theorem append (h : Slashless ps) (h' : Slashless qs) : Slashless (ps ++ qs) :=
  fun p hp => (List.mem_append.mp hp).elim (h p) (h' p)

theorem cons (h : '/' ∉ p) (h' : Slashless ps) : Slashless (p :: ps) :=
  List.forall_mem_cons.mpr ⟨h, h'⟩

theorem singleton (h : '/' ∉ p) : Slashless [p] :=
  cons h nil

end Slashless

variable {cs : List Char} {done ps qs : List (List Char)} {set : EncodeSet}

theorem upperHex_ne_slash : ∀ v < 16, upperHex v ≠ '/' := by
  decide

theorem slash_not_mem_percentOctet (b : UInt8) : '/' ∉ percentOctet b := by
  have hb : b.toNat < 256 := b.toNat_lt
  have hhigh : '/' ≠ upperHex (b.toNat / 16) := (upperHex_ne_slash _ (by omega)).symm
  have hlow : '/' ≠ upperHex (b.toNat % 16) := (upperHex_ne_slash _ (by omega)).symm
  simp [percentOctet, hhigh, hlow]

/-- Percent encoding brings in no slash. -/
theorem slash_not_mem_encode (h : '/' ∉ cs) : '/' ∉ encode set cs := by
  intro hmem
  obtain ⟨c, hc, hin⟩ := List.mem_flatMap.mp hmem
  rw [encodeChar] at hin
  split at hin
  · obtain ⟨b, -, hb⟩ := List.mem_flatMap.mp hin
    exact slash_not_mem_percentOctet b hb
  · exact h (List.mem_singleton.mp hin ▸ hc)

theorem slash_not_mem_withoutBreaks (h : '/' ∉ cs) : '/' ∉ withoutBreaks cs :=
  fun hmem => h (List.mem_of_mem_filter hmem)

theorem slashless_goUp (h : Slashless done) : Slashless (goUp done) := by
  rw [goUp]
  split
  · exact .nil
  · split
    · exact h
    · exact h.subset fun _ hp => List.dropLast_subset done hp

/-- What is cut behind a drive letter holds no other characters than the piece. -/
theorem slashless_splitAtDrive? {piece drive more : List Char} (h : '/' ∉ piece)
    (hs : splitAtDrive? piece = some (drive, more)) : '/' ∉ drive ∧ '/' ∉ more := by
  have hpiece : '/' ∉ withoutBreaks piece := slash_not_mem_withoutBreaks h
  rw [splitAtDrive?] at hs
  split at hs
  · next c d rest heq =>
    rw [heq] at hpiece
    simp only [List.mem_cons, not_or] at hpiece
    split at hs
    · obtain ⟨rfl, rfl⟩ := Prod.mk.inj (Option.some.inj hs)
      simp [hpiece]
    · exact absurd hs (by simp)
  · exact absurd hs (by simp)

/-- **No segment that is read holds a slash**, if no piece does. -/
theorem slashless_readSegments (file : Bool) (hdone : Slashless done) (hps : Slashless ps) :
    Slashless (readSegments file done ps).1 := by
  induction ps generalizing done with
  | nil => exact hdone
  | cons piece rest ih =>
    obtain ⟨hpiece, hrest⟩ := List.forall_mem_cons.mp hps
    have hs : '/' ∉ encode pathSet (withoutBreaks piece) :=
      slash_not_mem_encode (slash_not_mem_withoutBreaks hpiece)
    have hfinal : Slashless (if rest.isEmpty then [[]] else []) := by
      split
      · exact .singleton List.not_mem_nil
      · exact .nil
    rw [readSegments]
    split
    · next drive more hsplit =>
      split at hsplit
      · obtain ⟨hdrive, hmore⟩ := slashless_splitAtDrive? hpiece hsplit
        exact ih (hdone.append (.cons hdrive (.singleton (slash_not_mem_encode hmore)))) hrest
      · exact absurd hsplit (by simp)
    · split
      · exact ih ((slashless_goUp hdone).append hfinal) hrest
      · split
        · exact ih (hdone.append hfinal) hrest
        · split
          · have hletter : '/' ∉ (encode pathSet (withoutBreaks piece)).take 1 ++ [':'] := by
              intro hmem
              rcases List.mem_append.mp hmem with hmem | hmem
              · exact hs (List.mem_of_mem_take hmem)
              · exact absurd (List.mem_singleton.mp hmem) (by decide)
            exact ih (hdone.append (.singleton hletter)) hrest
          · exact ih (hdone.append (.singleton hs)) hrest

theorem slashless_readPath (special file : Bool) (cs : List Char) :
    Slashless (readPath special file cs).1 :=
  slashless_readSegments file .nil fun _ hp => Text.not_mem_of_mem_cut hp

/-- **A path of segments, none of which holds a slash.** -/
def Path.Segmented (path : Path) : Prop :=
  ∃ ss : List String, Slashless (ss.map String.toList) ∧ path = .segments ss

theorem Slashless.segmented_pathOf (h : Slashless ps) : (pathOf ps).Segmented :=
  ⟨ps.map String.ofList, by simpa using h, rfl⟩

/-! ## 2. What is written -/

/-- The characters of a path with these segments. -/
def slashed (ps : List (List Char)) : List Char :=
  ps.flatMap ('/' :: ·)

theorem slashed_append (ps qs : List (List Char)) :
    slashed (ps ++ qs) = slashed ps ++ slashed qs :=
  List.flatMap_append

theorem slashed_singleton (p : List Char) : slashed [p] = '/' :: p := by
  simp [slashed]

theorem toList_text_segments (ss : List String) :
    (Path.segments ss).text.toList = slashed (ss.map String.toList) := by
  simp [Path.text, String.join_eq, slashed, List.flatMap_def, List.map_map, Function.comp_def]

/-- Cutting the text of a path at its slashes gives its segments back. -/
theorem cut_slashed (h : Slashless ps) : Text.cut '/' (slashed ps) = [] :: ps := by
  induction ps using List.reverseRecOn with
  | nil => rfl
  | append_singleton ps p ih =>
    have hp : '/' ∉ p := h p (List.mem_append_right _ List.mem_cons_self)
    have hps : Slashless ps := h.subset fun _ hq => List.mem_append_left _ hq
    rw [slashed_append, slashed_singleton, Text.cut_append_cons, ih hps, Text.cut_of_not_mem hp,
      List.cons_append]

/-- **A text is the text of one list of segments.** -/
theorem slashed_inj (hp : Slashless ps) (hq : Slashless qs) :
    slashed ps = slashed qs ↔ ps = qs := by
  constructor
  · intro h
    have hcut : [] :: ps = [] :: qs := by rw [← cut_slashed hp, h, cut_slashed hq]
    exact List.tail_eq_of_cons_eq hcut
  · exact congrArg slashed

/-- **A path ends in a slash exactly if its last segment is empty.** -/
theorem getLast?_slashed_iff (h : Slashless ps) :
    (slashed ps).getLast? = some '/' ↔ ps.getLast? = some [] := by
  rcases List.eq_nil_or_concat ps with rfl | ⟨ps, p, rfl⟩
  · simp [slashed]
  · have hp : '/' ∉ p := h p (by simp)
    rw [List.concat_eq_append, slashed_append, slashed_singleton]
    cases p using List.reverseRecOn with
    | nil => simp
    | append_singleton p c =>
      have hc : c ≠ '/' := fun hc => hp (by simp [hc])
      rw [← List.cons_append, ← List.append_assoc, List.getLast?_concat, List.getLast?_concat]
      simp [hc]

end Url
end TokenTrust

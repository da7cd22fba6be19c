/-
# Elements are read as they are written

An element has its identifier, the length of its contents and the contents.  A reader gives an
element just for the octets that it is written as, with what is left behind them
(`Asn1.run_element_eq_some_iff`), if the contents are not longer than a length that is understood.
The readers of the contents are equivalences of the same kind, so that a structure is read back
piece by piece.

Contents of any length can be written, though what stands for a length of more than 127 octets is
ambiguous as a prefix.  Octets that consist of one element are not: a longer element has more octets
in all (`Asn1.Element.octets_inj`).  So the outermost sequence decides alone whether something is
too long (`Asn1.whole_sequence`), and what is inside one that is not is not too long either.
-/
import Mathlib
import TokenTrust.Asn1.ObjectId
import TokenTrust.Proofs.Octets
import TokenTrust.Proofs.Text

namespace TokenTrust
namespace Asn1

variable {α β : Type} {bs rest : List UInt8} {n : Nat} {e : Element}

/-! ## 1. Lengths -/

theorem lengthOctets_of_lt (h : n < 0x80) : lengthOctets n = [n.toUInt8] := if_pos h

theorem lengthOctets_of_le (h : 0x80 ≤ n) :
    lengthOctets n = (0x80 + (Octets.minimal n).length).toUInt8 :: Octets.minimal n :=
  if_neg (Nat.not_lt.mpr h)

/-- A greater length is not written with fewer octets. -/
theorem length_lengthOctets_mono {m : Nat} (h : m ≤ n) :
    (lengthOctets m).length ≤ (lengthOctets n).length := by
  by_cases hn : n < 0x80
  · rw [lengthOctets_of_lt hn, lengthOctets_of_lt (Nat.lt_of_le_of_lt h hn)]
    exact Nat.le_refl 1
  · rw [lengthOctets_of_le (Nat.le_of_not_lt hn), List.length_cons]
    by_cases hm : m < 0x80
    · rw [lengthOctets_of_lt hm]
      exact Nat.le_add_left 1 _
    · rw [lengthOctets_of_le (Nat.le_of_not_lt hm), List.length_cons, Octets.length_minimal,
        Octets.length_minimal]
      exact Nat.succ_le_succ (Octets.size_mono h)

theorem Element.octets_append (e : Element) (rest : List UInt8) :
    e.octets ++ rest = e.tag :: (lengthOctets e.contents.length ++ (e.contents ++ rest)) := by
  simp only [octets, List.cons_append, List.append_assoc]

/-- **Octets that are one element are that of one contents**, however long these are. -/
theorem Element.octets_inj {f : Element} (h : e.octets = f.octets) : e = f := by
  obtain ⟨tag, contents⟩ := e
  obtain ⟨tag', contents'⟩ := f
  simp only [octets, List.cons_append, List.cons.injEq] at h
  obtain ⟨rfl, h⟩ := h
  have hcount := congrArg List.length h
  rw [List.length_append, List.length_append] at hcount
  have hlength : contents.length = contents'.length := by
    rcases Nat.lt_trichotomy contents.length contents'.length with hlt | heq | hgt
    · have := length_lengthOctets_mono (Nat.le_of_lt hlt)
      omega
    · exact heq
    · have := length_lengthOctets_mono (Nat.le_of_lt hgt)
      omega
  rw [hlength] at h
  rw [List.append_cancel_left h]

/-! ## 2. Readers -/

section Readers

variable {r : Reader α} {x : β × List UInt8}

theorem run_bind_eq_some_iff {f : α → Reader β} :
    (r >>= f).run bs = some x ↔ ∃ a left, r.run bs = some (a, left) ∧ (f a).run left = some x := by
  rw [StateT.run_bind, Option.bind_eq_bind, Option.bind_eq_some_iff]
  exact Prod.exists

theorem run_pure_eq_some_iff {a : α} {y : α × List UInt8} :
    (pure a : Reader α).run bs = some y ↔ (a, bs) = y := Option.some_inj

theorem run_get_bind {f : List UInt8 → Reader β} : (get >>= f).run bs = (f bs).run bs := rfl

/-- What is found without reading leaves all octets. -/
theorem run_liftM_eq_some_iff {o : Option α} {a : α} :
    (liftM o : Reader α).run bs = some (a, rest) ↔ o = some a ∧ bs = rest := by
  cases o with
  | none => exact ⟨nofun, nofun⟩
  | some b =>
    have hrun : (liftM (some b) : Reader α).run bs = some (b, bs) := rfl
    rw [hrun, Option.some_inj, Option.some_inj, Prod.mk.injEq]

/-- What is refused is not read. -/
theorem run_guard_eq_some_iff {p : Prop} [Decidable p] {f : PUnit → Reader β} :
    (if p then failure >>= f else f ⟨⟩).run bs = some x ↔ ¬ p ∧ (f ⟨⟩).run bs = some x := by
  split
  · next h =>
    simp only [h, not_true, false_and, iff_false]
    exact nofun
  · next h => simp only [h, not_false_eq_true, true_and]

theorem whole_eq_some_iff {a : α} : whole r bs = some a ↔ r.run bs = some (a, []) := by
  simp only [whole, Option.bind_eq_bind, Option.bind_eq_some_iff]
  constructor
  · rintro ⟨⟨b, left⟩, hrun, h⟩
    cases left with
    | nil =>
      cases h
      exact hrun
    | cons c left => exact nomatch h
  · intro h
    exact ⟨(a, []), h, rfl⟩

end Readers

theorem run_octet_eq_some_iff {b : UInt8} : octet.run bs = some (b, rest) ↔ bs = b :: rest := by
  cases bs with
  | nil =>
    constructor
    · exact nofun
    · exact nofun
  | cons c bs =>
    have hrun : octet.run (c :: bs) = some (c, bs) := rfl
    rw [hrun, Option.some_inj, Prod.mk.injEq, List.cons.injEq]

theorem run_take_eq_some_iff {xs : List UInt8} :
    (take n).run bs = some (xs, rest) ↔ bs = xs ++ rest ∧ xs.length = n := by
  rw [take, run_get_bind, run_guard_eq_some_iff]
  have hset : (set (bs.drop n) >>= fun _ => pure (bs.take n) : Reader (List UInt8)).run bs =
      some (bs.take n, bs.drop n) := rfl
  rw [hset, Option.some_inj, Prod.mk.injEq]
  constructor
  · rintro ⟨hroom, rfl, rfl⟩
    exact ⟨(List.take_append_drop n bs).symm, List.length_take_of_le (Nat.le_of_not_lt hroom)⟩
  · rintro ⟨rfl, rfl⟩
    refine ⟨?_, List.take_left, List.drop_left⟩
    rw [List.length_append]
    omega

/-- An understood length has four octets at most. -/
theorem length_minimal_le (h : n ≤ maxLength) : (Octets.minimal n).length ≤ 4 := by
  rw [Octets.length_minimal]
  exact Octets.size_le_of_lt (Nat.lt_of_le_of_lt h (by decide))

/-- **A length is read as it is written**, if it is understood. -/
theorem run_length_eq_some_iff :
    length.run bs = some (n, rest) ↔ bs = lengthOctets n ++ rest ∧ n ≤ maxLength := by
  simp only [length, run_bind_eq_some_iff, run_octet_eq_some_iff]
  constructor
  · rintro ⟨b, left, rfl, h⟩
    split at h
    · next hb =>
      obtain ⟨rfl, rfl⟩ := Prod.mk.inj (run_pure_eq_some_iff.mp h)
      have hb : b.toNat < 0x80 := UInt8.lt_iff_toNat_lt.mp hb
      refine ⟨?_, Nat.le_trans (Nat.le_of_lt hb) (by decide)⟩
      rw [lengthOctets_of_lt hb, Nat.toUInt8_eq, UInt8.ofNat_toNat]
      rfl
    · simp only [run_bind_eq_some_iff, run_guard_eq_some_iff, run_take_eq_some_iff,
        run_pure_eq_some_iff, not_or, Classical.not_not, Prod.mk.injEq] at h
      obtain ⟨digits, left', ⟨rfl, -⟩, ⟨hmax, hwritten⟩, rfl, rfl⟩ := h
      rw [hwritten]
      exact ⟨rfl, Nat.le_of_not_lt hmax⟩
  · rintro ⟨rfl, hmax⟩
    by_cases hn : n < 0x80
    · have hb : n.toUInt8.toNat = n := Text.Utf8.toNat_toUInt8 (by omega)
      refine ⟨n.toUInt8, rest, by rw [lengthOctets_of_lt hn]; rfl, ?_⟩
      rw [if_pos (by rw [UInt8.lt_iff_toNat_lt, hb]; exact hn), run_pure_eq_some_iff, hb]
    · have hfour := length_minimal_le hmax
      have hwritten := lengthOctets_of_le (Nat.le_of_not_lt hn)
      have hb : (0x80 + (Octets.minimal n).length).toUInt8.toNat =
          0x80 + (Octets.minimal n).length := Text.Utf8.toNat_toUInt8 (by omega)
      refine ⟨_, Octets.minimal n ++ rest, by rw [hwritten]; rfl, ?_⟩
      have hlong : ¬ (0x80 + (Octets.minimal n).length).toUInt8 < 0x80 := by
        rw [UInt8.lt_iff_toNat_lt, hb]
        exact Nat.not_lt.mpr (Nat.le_add_right 0x80 _)
      simp only [if_neg hlong, run_bind_eq_some_iff, run_guard_eq_some_iff, run_take_eq_some_iff,
        run_pure_eq_some_iff]
      refine ⟨Octets.minimal n, rest, ⟨rfl, by omega⟩, ?_, ?_⟩
      · rw [Octets.value_minimal, hwritten]
        simp [hmax]
      · rw [Octets.value_minimal]

/-- **An element is read as it is written**, if its length and its identifier are understood. -/
theorem run_element_eq_some_iff : element.run bs = some (e, rest) ↔
    bs = e.octets ++ rest ∧ Tag.isKnown e.tag = true ∧ e.contents.length ≤ maxLength := by
  simp only [element, run_bind_eq_some_iff, run_guard_eq_some_iff, run_octet_eq_some_iff,
    run_length_eq_some_iff, run_take_eq_some_iff, run_pure_eq_some_iff, Prod.mk.injEq]
  constructor
  · rintro ⟨tag, left, rfl, hknown, n, left', ⟨rfl, hmax⟩, contents, left'', ⟨rfl, rfl⟩, rfl, rfl⟩
    exact ⟨(Element.octets_append ⟨tag, contents⟩ left'').symm, by simpa using hknown, hmax⟩
  · rintro ⟨rfl, hknown, hmax⟩
    exact ⟨e.tag, _, Element.octets_append e rest, by simpa using hknown, e.contents.length, _,
      ⟨rfl, hmax⟩, e.contents, rest, ⟨rfl, rfl⟩, rfl, rfl⟩

/-! ## 3. Contents -/

theorem run_contents_eq_some_iff {tag : UInt8} {c : List UInt8} :
    (contents tag).run bs = some (c, rest) ↔
      bs = Element.octets ⟨tag, c⟩ ++ rest ∧ Tag.isKnown tag = true ∧ c.length ≤ maxLength := by
  simp only [contents, run_bind_eq_some_iff, run_guard_eq_some_iff, run_element_eq_some_iff,
    run_pure_eq_some_iff, Prod.mk.injEq, Classical.not_not]
  constructor
  · rintro ⟨⟨tag, c⟩, left, ⟨rfl, hknown, hmax⟩, rfl, rfl, rfl⟩
    exact ⟨rfl, hknown, hmax⟩
  · rintro ⟨rfl, hknown, hmax⟩
    exact ⟨⟨tag, c⟩, rest, ⟨rfl, hknown, hmax⟩, rfl, rfl, rfl⟩

/-- What another reader takes from the contents of a sequence is what it takes from octets. -/
theorem run_sequence_eq_some_iff {r : Reader α} {a : α} :
    (sequence r).run bs = some (a, rest) ↔ ∃ c,
      bs = Element.octets ⟨Tag.sequence, c⟩ ++ rest ∧ c.length ≤ maxLength ∧
        r.run c = some (a, []) := by
  have hknown : Tag.isKnown Tag.sequence = true := by decide
  simp only [sequence, run_bind_eq_some_iff, run_contents_eq_some_iff,
    run_liftM_eq_some_iff, whole_eq_some_iff, hknown, true_and]
  constructor
  · rintro ⟨c, left, ⟨rfl, hmax⟩, hr, rfl⟩
    exact ⟨c, rfl, hmax, hr⟩
  · rintro ⟨c, rfl, hmax, hr⟩
    exact ⟨c, rest, ⟨rfl, hmax⟩, hr, rfl⟩

/-- **A sequence decides alone whether something is too long.** -/
theorem whole_sequence (r : Reader α) (c : List UInt8) :
    whole (sequence r) (Element.octets ⟨Tag.sequence, c⟩) =
      if c.length ≤ maxLength then whole r c else none := by
  refine Option.ext fun a => ?_
  rw [whole_eq_some_iff, run_sequence_eq_some_iff]
  constructor
  · rintro ⟨c', hoctets, hmax, hr⟩
    rw [List.append_nil] at hoctets
    obtain ⟨-, rfl⟩ := Element.mk.inj (Element.octets_inj hoctets)
    rw [if_pos hmax]
    exact whole_eq_some_iff.mpr hr
  · intro h
    split at h
    · next hmax => exact ⟨c, (List.append_nil _).symm, hmax, whole_eq_some_iff.mp h⟩
    · exact nomatch h

/-- An integer that is not negative. -/
def integer (n : Nat) : Element := ⟨Tag.integer, naturalOctets n⟩

theorem value_naturalOctets (n : Nat) : Octets.value (naturalOctets n) = n := by
  have hvalue := Octets.value_minimal n
  unfold naturalOctets
  split
  · next h => rw [h] at hvalue; exact hvalue
  · next b digits h =>
    rw [h] at hvalue
    split
    · exact hvalue
    · rw [Octets.value_cons_zero, hvalue]

/-- **A number is read as it is written.** -/
theorem run_natural_eq_some_iff : natural.run bs = some (n, rest) ↔
    bs = (integer n).octets ++ rest ∧ (naturalOctets n).length ≤ maxLength := by
  have hknown : Tag.isKnown Tag.integer = true := by decide
  simp only [natural, run_bind_eq_some_iff, run_guard_eq_some_iff, run_contents_eq_some_iff,
    run_pure_eq_some_iff, Prod.mk.injEq, Classical.not_not, hknown, true_and]
  constructor
  · rintro ⟨c, left, ⟨rfl, hmax⟩, hwritten, rfl, rfl⟩
    rw [integer, hwritten]
    exact ⟨rfl, hmax⟩
  · rintro ⟨rfl, hmax⟩
    refine ⟨naturalOctets n, rest, ⟨rfl, hmax⟩, ?_, ?_, rfl⟩
    · rw [value_naturalOctets]
    · rw [value_naturalOctets]

/-- Octets as a bit string that uses all their bits. -/
def bitsOf (octets : List UInt8) : Element := ⟨Tag.bitString, 0 :: octets⟩

/-- **Octets are read back from the bit string of them.** -/
theorem run_bitString_bitsOf {octets : List UInt8} (h : octets.length < maxLength) :
    bitString.run ((bitsOf octets).octets ++ rest) = some (⟨0, octets⟩, rest) := by
  have hcontents : (contents Tag.bitString).run ((bitsOf octets).octets ++ rest) =
      some (0 :: octets, rest) :=
    run_contents_eq_some_iff.mpr ⟨rfl, by decide, h⟩
  rw [bitString, run_bind_eq_some_iff]
  refine ⟨_, _, hcontents, ?_⟩
  have hused : ¬ ((7 : UInt8) < 0 ∨ (0 : UInt8) ≠ 0 ∧ octets = []) := by simp
  exact run_guard_eq_some_iff.mpr ⟨hused, rfl⟩

namespace ObjectId

/-- An identifier as an element. -/
def element (id : ObjectId) : Element := ⟨Tag.objectId, id.octets⟩

/-- **An identifier is read as it is written**, if it is one. -/
theorem run_read {id : ObjectId} (h : ofContents? id.octets = some id) (rest : List UInt8) :
    read.run (id.element.octets ++ rest) = some (id, rest) := by
  have hlength : id.octets.length ≤ 39 := by
    simp only [ofContents?] at h
    split at h
    · next hbounds => exact hbounds.2.1
    · exact nomatch h
  rw [read, run_bind_eq_some_iff]
  refine ⟨id.octets, rest, ?_, ?_⟩
  · exact run_contents_eq_some_iff.mpr ⟨rfl, by decide, Nat.le_trans hlength (by decide)⟩
  · exact run_liftM_eq_some_iff.mpr ⟨h, rfl⟩

theorem ofContents?_rsaEncryption : ofContents? rsaEncryption.octets = some rsaEncryption := by
  cbv

theorem ofContents?_ecPublicKey : ofContents? ecPublicKey.octets = some ecPublicKey := by
  cbv

end ObjectId

end Asn1
end TokenTrust

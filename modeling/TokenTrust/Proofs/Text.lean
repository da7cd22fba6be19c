/-
# Laws of texts

Cutting at a separator leaves pieces without it, and dropping from the ends of a text loses nothing
else than what is named.  In octets a character of ASCII stands for itself and for nothing else, so
an octet of it that is found is that character.  Octets that a text is written in are read as that
text (`Text.Utf8.text?_bytes`).
-/
import Mathlib.Data.List.DropRight
import TokenTrust.Text.Blank
import TokenTrust.Text.Utf8

namespace TokenTrust

/-! ## 1. Before the last occurrence -/

/-- What stands before the last occurrence of an element. -/
def beforeLast {α : Type} [DecidableEq α] (a : α) (l : List α) : List α :=
  (l.reverse.dropWhile (· ≠ a)).tail.reverse

/-- The last occurrence is the one that no other follows. -/
theorem beforeLast_append_cons {α : Type} [DecidableEq α] {a : α} {l m : List α} (h : a ∉ m) :
    beforeLast a (l ++ a :: m) = l := by
  have hm : ∀ b ∈ m.reverse, (decide (b ≠ a)) = true := fun b hb =>
    decide_eq_true fun hba => h (hba ▸ List.mem_reverse.mp hb)
  have hr : (l ++ a :: m).reverse = m.reverse ++ a :: l.reverse := by simp
  rw [beforeLast, hr, List.dropWhile_append_of_pos hm, List.dropWhile_cons_of_neg (by simp),
    List.tail_cons, List.reverse_reverse]

namespace Text

/-! ## 2. Pieces -/

/-- No piece holds the separator. -/
theorem not_mem_of_mem_cut {sep : Char} : ∀ {cs p : List Char}, p ∈ cut sep cs → sep ∉ p
  | [], p, h => by
    rw [List.mem_singleton.mp h]
    exact List.not_mem_nil
  | c :: cs, p, h => by
    simp only [cut] at h
    split at h
    · rcases List.mem_cons.mp h with rfl | h
      · exact List.not_mem_nil
      · exact not_mem_of_mem_cut h
    · next hc =>
      have hne : sep ≠ c := fun e => hc e.symm
      split at h
      · next hn => exact absurd hn (cut_ne_nil sep cs)
      · next q qs hq =>
        have hall : ∀ x ∈ q :: qs, sep ∉ x := fun x hx => not_mem_of_mem_cut (hq ▸ hx)
        rcases List.mem_cons.mp h with rfl | h
        · exact List.not_mem_cons_of_ne_of_not_mem hne (hall q List.mem_cons_self)
        · exact hall p (List.mem_cons_of_mem _ h)

/-- A text without the separator is one piece. -/
theorem cut_of_not_mem {sep : Char} {cs : List Char} (h : sep ∉ cs) : cut sep cs = [cs] := by
  induction cs with
  | nil => rfl
  | cons c cs ih =>
    have hc : c ≠ sep := fun hc => h (hc ▸ List.mem_cons_self)
    rw [cut, if_neg hc, ih fun hcs => h (List.mem_cons_of_mem c hcs)]

theorem not_mem_before (c : Char) (s : String) : c ∉ (before c s).toList := by
  intro h
  rw [before, String.toList_ofList] at h
  have hother := List.mem_takeWhile_imp h
  simp at hother

/-- What has no separator is kept whole. -/
theorem before_of_not_mem {c : Char} {s : String} (h : c ∉ s.toList) : before c s = s := by
  have hall : ∀ d ∈ s.toList, (d != c) = true := by
    intro d hd
    rw [bne_iff_ne]
    rintro rfl
    exact h hd
  rw [before, List.takeWhile_eq_self_iff.mpr hall, String.ofList_toList]

/-- **To occur is to stand somewhere in a text**, with anything before and behind. -/
theorem occurs_iff_infix {needle cs : List Char} : occurs needle cs = true ↔ needle <:+: cs := by
  induction cs with
  | nil => simp [occurs]
  | cons c cs ih =>
    rw [occurs, Bool.or_eq_true, List.isPrefixOf_iff_prefix, ih, List.infix_cons_iff]

/-! ## 3. Both ends -/

section Ends

variable {p : Char → Bool} {cs : List Char}

/-- Dropping from the end is dropping from the front of what is read backwards. -/
theorem dropEnd_eq_rdropWhile (p : Char → Bool) (cs : List Char) :
    dropEnd p cs = cs.rdropWhile p := rfl

/-- **What is dropped from the end is one character, repeated.** -/
theorem exists_eq_dropEnd_append (c : Char) (cs : List Char) :
    ∃ n, cs = dropEnd (· == c) cs ++ List.replicate n c := by
  refine ⟨(cs.rtakeWhile (· == c)).length, ?_⟩
  have htail : cs.rtakeWhile (· == c) = List.replicate (cs.rtakeWhile (· == c)).length c :=
    List.eq_replicate_of_mem fun d hd => by simpa using List.mem_rtakeWhile_imp hd
  rw [← htail, dropEnd_eq_rdropWhile, List.rdropWhile_append_rtakeWhile]

/-- Nothing else is dropped. -/
theorem dropEnd_append (hcs : ∀ c ∈ cs, p c = false) {ds : List Char} (hds : ∀ d ∈ ds, p d) :
    dropEnd p (cs ++ ds) = cs := by
  have hds' : ∀ d ∈ ds.reverse, p d := fun d hd => hds d (List.mem_reverse.mp hd)
  have hcs' : cs.reverse.dropWhile p = cs.reverse :=
    List.dropWhile_eq_self_iff.mpr fun hl =>
      Bool.eq_false_iff.mp (hcs _ (List.mem_reverse.mp (List.getElem_mem hl)))
  rw [dropEnd, List.reverse_append, List.dropWhile_append_of_pos hds', hcs', List.reverse_reverse]

/-- What holds none of the characters keeps it all, whatever stands around it. -/
theorem strip_append (hcs : ∀ c ∈ cs, p c = false) {before behind : List Char}
    (hbefore : ∀ c ∈ before, p c) (hbehind : ∀ c ∈ behind, p c) :
    strip p (before ++ cs ++ behind) = cs := by
  rw [strip, List.append_assoc, List.dropWhile_append_of_pos hbefore]
  cases cs with
  | nil =>
    rw [List.nil_append, List.dropWhile_eq_nil_iff.mpr hbehind]
    rfl
  | cons c cs =>
    rw [List.cons_append, List.dropWhile_cons_of_neg (by simp [hcs c List.mem_cons_self]),
      ← List.cons_append, dropEnd_append hcs hbehind]

theorem mem_of_mem_strip {c : Char} (h : c ∈ strip p cs) : c ∈ cs := by
  rw [strip, dropEnd_eq_rdropWhile] at h
  exact (List.dropWhile_suffix p).subset ((List.rdropWhile_prefix p _).subset h)

/-- What is stripped once is stripped. -/
theorem strip_strip (p : Char → Bool) (cs : List Char) : strip p (strip p cs) = strip p cs := by
  have hfront : (dropEnd p (cs.dropWhile p)).dropWhile p = dropEnd p (cs.dropWhile p) := by
    -- what is left starts as the text without its front does
    have hstart : dropEnd p (cs.dropWhile p) <+: cs.dropWhile p := List.rdropWhile_prefix p _
    rw [List.dropWhile_eq_self_iff]
    intro hl
    rw [hstart.getElem hl]
    exact List.dropWhile_eq_self_iff.mp (List.dropWhile_idempotent p _) _
  rw [strip, strip, hfront]
  exact List.rdropWhile_idempotent p _

theorem trim_trim (s : String) : trim (trim s) = trim s := by
  rw [trim, trim, String.toList_ofList, strip_strip]

end Ends

/-! ## 4. Octets -/

namespace Utf8

theorem encode_append (cs ds : List Char) : encode (cs ++ ds) = encode cs ++ encode ds := by
  simp [encode]

theorem encode_cons (c : Char) (cs : List Char) : encode (c :: cs) = encodeChar c ++ encode cs := by
  simp [encode]

/-- The octets of a character outside ASCII are none of ASCII. -/
theorem le_of_mem_encodeChar {c : Char} {b : UInt8} (hc : 0x80 ≤ c.toNat)
    (h : b ∈ encodeChar c) : 0x80 ≤ b.toNat := by
  have hmax : c.toNat < 0x110000 := by
    rcases c.valid with hv | hv
    · exact Nat.lt_trans hv (by decide)
    · exact hv.2
  simp only [encodeChar, Nat.not_lt.mpr hc, if_false] at h
  split at h
  · simp only [List.mem_cons, List.not_mem_nil, or_false] at h
    rcases h with rfl | rfl <;> simp <;> omega
  · split at h
    · simp only [List.mem_cons, List.not_mem_nil, or_false] at h
      rcases h with rfl | rfl | rfl <;> simp <;> omega
    · simp only [List.mem_cons, List.not_mem_nil, or_false] at h
      rcases h with rfl | rfl | rfl | rfl <;> simp <;> omega

/-- **An octet of ASCII is the character it stands for.** -/
theorem mem_encode_iff {a : Char} (ha : a.toNat < 0x80) {cs : List Char} :
    a.toNat.toUInt8 ∈ encode cs ↔ a ∈ cs := by
  constructor
  · intro h
    obtain ⟨c, hc, hb⟩ := List.mem_flatMap.mp h
    by_cases hlt : c.toNat < 0x80
    · simp only [encodeChar, hlt, if_true, List.mem_singleton] at hb
      have hn : a.toNat = c.toNat := by
        have := congrArg UInt8.toNat hb
        simp only [UInt8.toNat_ofNat', Nat.toUInt8_eq] at this
        omega
      have hac : a = c := Char.toNat_inj.mp hn
      exact hac ▸ hc
    · have := le_of_mem_encodeChar (Nat.not_lt.mp hlt) hb
      simp only [UInt8.toNat_ofNat', Nat.toUInt8_eq] at this
      omega
  · intro h
    refine List.mem_flatMap.mpr ⟨a, h, ?_⟩
    simp only [encodeChar, ha, if_true, List.mem_singleton]

/-- The characters of octets of ASCII. -/
def ascii (bs : List UInt8) : List Char :=
  bs.map fun b => Char.ofNat b.toNat

theorem encodeChar_ne_nil (c : Char) : encodeChar c ≠ [] := by
  simp only [encodeChar]
  split
  · simp
  · split
    · simp
    · split <;> simp

/-- An octet of ASCII is written by its character. -/
theorem encodeChar_ofNat {b : UInt8} (hb : b.toNat < 0x80) :
    encodeChar (Char.ofNat b.toNat) = [b] := by
  have h : ∀ n : Fin 0x80, encodeChar (Char.ofNat n) = [UInt8.ofNat n] := by decide
  simpa using h ⟨b.toNat, hb⟩

/-- **Octets of ASCII are written by their characters**, and by nothing else. -/
theorem encode_eq_iff {bs : List UInt8} (h : ∀ b ∈ bs, b.toNat < 0x80) {cs : List Char} :
    encode cs = bs ↔ cs = ascii bs := by
  constructor
  · rintro rfl
    induction cs with
    | nil => rfl
    | cons c cs ih =>
      rw [encode_cons, List.forall_mem_append] at h
      have hc : c.toNat < 0x80 := by
        by_contra hlarge
        obtain ⟨b, hb⟩ := List.exists_mem_of_ne_nil _ (encodeChar_ne_nil c)
        exact absurd (h.1 b hb) (Nat.not_lt.mpr (le_of_mem_encodeChar (Nat.not_lt.mp hlarge) hb))
      have hone : encodeChar c = [c.toNat.toUInt8] := if_pos hc
      have hback : c.toNat.toUInt8.toNat = c.toNat := by
        simp only [Nat.toUInt8_eq, UInt8.toNat_ofNat']
        omega
      have htail := ih h.2
      rw [ascii] at htail ⊢
      rw [encode_cons, hone, List.singleton_append, List.map_cons, hback, Char.ofNat_toNat, ← htail]
  · rintro rfl
    induction bs with
    | nil => rfl
    | cons b bs ih =>
      obtain ⟨hb, hbs⟩ := List.forall_mem_cons.mp h
      have htail := ih hbs
      rw [ascii] at htail ⊢
      rw [List.map_cons, encode_cons, encodeChar_ofNat hb, htail, List.singleton_append]

/-- A text of ASCII is told from all others by its octets. -/
theorem eq_of_encode_eq {cs ds : List Char} (hcs : ∀ c ∈ cs, c.toNat < 0x80)
    (h : encode ds = encode cs) : ds = cs := by
  have hoctets : ∀ b ∈ encode cs, b.toNat < 0x80 := by
    intro b hb
    obtain ⟨c, hc, hbc⟩ := List.mem_flatMap.mp hb
    have hlt := hcs c hc
    simp only [encodeChar, hlt, if_true, List.mem_singleton] at hbc
    simp only [hbc, Nat.toUInt8_eq, UInt8.toNat_ofNat']
    omega
  rw [(encode_eq_iff hoctets).mp h, ← (encode_eq_iff hoctets).mp rfl]

/-! ## 5. Characters of octets -/

section Reading

variable {a b b' b'' : UInt8} {x y z : Nat} {rest : List UInt8}

theorem bind_return (c : Option Char) (rest : List UInt8) :
    (do let c ← c; return (c, rest)) = c.map (·, rest) := by
  cases c with
  | none => rfl
  | some c => rfl

theorem first?_one (h : a.toNat < 0x80) : first? (a :: rest) = some (Char.ofNat a.toNat, rest) := by
  unfold first?
  dsimp only
  rw [if_pos h]

theorem first?_two (hlow : 0xC0 ≤ a.toNat) (hhigh : a.toNat < 0xE0)
    (hx : continuation? b = some x) :
    first? (a :: b :: rest) =
      (charFrom? 0x80 ((a.toNat - 0xC0) * 0x40 + x)).map (·, rest) := by
  unfold first?
  dsimp only
  rw [if_neg (by omega), if_neg (by omega), if_pos hhigh, hx]
  exact bind_return _ rest

theorem first?_three (hlow : 0xE0 ≤ a.toNat) (hhigh : a.toNat < 0xF0)
    (hx : continuation? b = some x) (hy : continuation? b' = some y) :
    first? (a :: b :: b' :: rest) =
      (charFrom? 0x800 ((a.toNat - 0xE0) * 0x1000 + x * 0x40 + y)).map (·, rest) := by
  unfold first?
  dsimp only
  rw [if_neg (by omega), if_neg (by omega), if_neg (by omega), if_pos hhigh, hx, hy]
  exact bind_return _ rest

theorem first?_four (hlow : 0xF0 ≤ a.toNat) (hhigh : a.toNat < 0xF8)
    (hx : continuation? b = some x) (hy : continuation? b' = some y)
    (hz : continuation? b'' = some z) :
    first? (a :: b :: b' :: b'' :: rest) =
      (charFrom? 0x10000 ((a.toNat - 0xF0) * 0x40000 + x * 0x1000 + y * 0x40 + z)).map
        (·, rest) := by
  unfold first?
  dsimp only
  rw [if_neg (by omega), if_neg (by omega), if_neg (by omega), if_neg (by omega), if_pos hhigh, hx,
    hy, hz]
  -- stated for any reading, so that nothing is computed with the large factor
  have hread : ∀ read : Nat → Nat → Nat → Option Char, (do
      let x ← some x
      let y ← some y
      let z ← some z
      let c ← read x y z
      return (c, rest)) = (read x y z).map (·, rest) := fun read => bind_return (read x y z) rest
  exact hread fun x y z =>
    charFrom? 0x10000 ((a.toNat - 0xF0) * 0x40000 + x * 0x1000 + y * 0x40 + z)

end Reading

theorem charFrom?_toNat {least : Nat} {c : Char} (h : least ≤ c.toNat) :
    charFrom? least c.toNat = some c := by
  have hvalid : c.toNat.isValidChar := c.valid
  rw [charFrom?, if_pos ⟨h, hvalid⟩, Char.ofNat_toNat]

theorem toNat_toUInt8 {n : Nat} (h : n < 0x100) : n.toUInt8.toNat = n := by
  rw [Nat.toUInt8, UInt8.toNat_ofNat']
  omega

/-- An octet that goes on a character has six bits of it. -/
theorem continuation?_six (n : Nat) :
    continuation? (0x80 + n % 0x40).toUInt8 = some (n % 0x40) := by
  rw [continuation?, toNat_toUInt8 (by omega), if_pos (by omega), Nat.add_sub_cancel_left]

/-- **A character is read as it is written**, and what follows it is left. -/
theorem first?_encodeChar (c : Char) (rest : List UInt8) :
    first? (encodeChar c ++ rest) = some (c, rest) := by
  have hlt : c.toNat < 0x110000 := by
    have hvalid : c.toNat.isValidChar := c.valid
    unfold Nat.isValidChar at hvalid
    omega
  rw [encodeChar]
  split
  · next h =>
    have hoctet := toNat_toUInt8 (n := c.toNat) (by omega)
    have hhigh : c.toNat.toUInt8.toNat < 0x80 := by rwa [hoctet]
    rw [List.singleton_append, first?_one hhigh, hoctet, Char.ofNat_toNat]
  · next h₁ =>
    split
    · have hoctet := toNat_toUInt8 (n := 0xC0 + c.toNat / 0x40) (by omega)
      have hlow : 0xC0 ≤ (0xC0 + c.toNat / 0x40).toUInt8.toNat := by rw [hoctet]; omega
      have hhigh : (0xC0 + c.toNat / 0x40).toUInt8.toNat < 0xE0 := by rw [hoctet]; omega
      have hn : (0xC0 + c.toNat / 0x40 - 0xC0) * 0x40 + c.toNat % 0x40 = c.toNat := by omega
      rw [List.cons_append, List.singleton_append, first?_two hlow hhigh (continuation?_six _),
        hoctet, hn, charFrom?_toNat (Nat.le_of_not_lt h₁)]
      rfl
    · next h₂ =>
      split
      · have hoctet := toNat_toUInt8 (n := 0xE0 + c.toNat / 0x1000) (by omega)
        have hlow : 0xE0 ≤ (0xE0 + c.toNat / 0x1000).toUInt8.toNat := by rw [hoctet]; omega
        have hhigh : (0xE0 + c.toNat / 0x1000).toUInt8.toNat < 0xF0 := by rw [hoctet]; omega
        have hn : (0xE0 + c.toNat / 0x1000 - 0xE0) * 0x1000 + c.toNat / 0x40 % 0x40 * 0x40 +
          c.toNat % 0x40 = c.toNat := by omega
        rw [List.cons_append, List.cons_append, List.singleton_append, first?_three hlow hhigh
          (continuation?_six _) (continuation?_six _), hoctet, hn,
          charFrom?_toNat (Nat.le_of_not_lt h₂)]
        rfl
      · next h₃ =>
        have hoctet := toNat_toUInt8 (n := 0xF0 + c.toNat / 0x40000) (by omega)
        have hlow : 0xF0 ≤ (0xF0 + c.toNat / 0x40000).toUInt8.toNat := by rw [hoctet]; omega
        have hhigh : (0xF0 + c.toNat / 0x40000).toUInt8.toNat < 0xF8 := by rw [hoctet]; omega
        have hn : (0xF0 + c.toNat / 0x40000 - 0xF0) * 0x40000 + c.toNat / 0x1000 % 0x40 * 0x1000 +
          c.toNat / 0x40 % 0x40 * 0x40 + c.toNat % 0x40 = c.toNat := by omega
        rw [List.cons_append, List.cons_append, List.cons_append, List.singleton_append,
          first?_four hlow hhigh (continuation?_six _) (continuation?_six _)
          (continuation?_six _), hoctet, hn, charFrom?_toNat (Nat.le_of_not_lt h₃)]
        rfl

theorem decode?_encode (cs : List Char) : decode? (encode cs) = some cs := by
  induction cs with
  | nil => rw [decode?]; rfl
  | cons c cs ih =>
    have hfirst := first?_encodeChar c (encode cs)
    have hne : (encodeChar c ++ encode cs).isEmpty = false := by
      simp [encodeChar_ne_nil]
    rw [encode_cons, decode?, hne, if_neg Bool.false_ne_true]
    split
    · next h => simp [hfirst] at h
    · next c' rest h =>
      obtain ⟨rfl, rfl⟩ : c = c' ∧ encode cs = rest := by simpa [hfirst] using h
      rw [ih]
      rfl

/-- **A text is what its octets are read as.** -/
theorem text?_bytes (s : String) : text? (bytes s) = some s := by
  rw [text?, bytes, decode?_encode, Option.map_some, String.ofList_toList]

end Utf8
end Text
end TokenTrust

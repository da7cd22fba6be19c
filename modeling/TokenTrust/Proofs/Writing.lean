/-
# Every value has a text

A value of a document is put together from words, numbers, strings, lists and objects
(`Json.Value.Proper`), and each of them can be written so that it is read as itself: a character as
it is or as an escape (`Json.Reader.run_string`), an integer by its digits
(`Json.Reader.spelled_int`), a list and an object with commas between what is in them.  So there is
a text for every such value (`Json.Value.Proper.exists_text`).

Of the other numbers there is one only for those that the reader rounds a text to.
-/
import Mathlib
import TokenTrust.Proofs.Reading
import TokenTrust.Proofs.Text

namespace TokenTrust
namespace Json
namespace Reader

open Text

variable {after input rest : List UInt8} {n : Nat}

/-! ## 1. Strings -/

/-- The octets that stand for a character in a string: its own or, where they are not plain, an
escape by code unit. -/
def spelled (c : Char) : List UInt8 :=
  if (Utf8.encodeChar c).all isPlain then Utf8.encodeChar c
  else ['\\', 'u', '0', '0', Nat.digitChar (c.toNat / 16), Nat.digitChar (c.toNat % 16)].map octet

/-- What a string does behind plain octets. -/
def behindPlain (bound : Nat) (plain : List UInt8) : Reader (List UInt8) := do
  match ← peek with
  | none => throw .endInString
  | some b =>
    skip
    if b == octet '"' then return plain
    else if b == octet '\\' then
      let octets ← escape
      let rest ← stringOctets bound
      return plain ++ octets ++ rest
    else throw .controlCharacter

theorem run_stringOctets_succ (bound : Nat) (input : List UInt8) :
    StateT.run (stringOctets (bound + 1)) input =
      StateT.run (behindPlain bound (input.takeWhile isPlain)) (input.dropWhile isPlain) := rfl

/-- More plain octets come before the rest of the string. -/
theorem run_behindPlain_append {plain octets : List UInt8} (more : List UInt8)
    (h : StateT.run (behindPlain n plain) input = .ok (octets, rest)) :
    StateT.run (behindPlain n (more ++ plain)) input = .ok (more ++ octets, rest) := by
  cases input with
  | nil => exact nomatch h
  | cons b tail =>
    have hskip : StateT.run skip (b :: tail) = .ok ((), tail) := rfl
    rw [behindPlain, run_bind_ok (run_peek _)] at h ⊢
    dsimp only [List.head?_cons] at h ⊢
    rw [run_bind_ok hskip] at h ⊢
    split at h
    · next hquote =>
      rw [if_pos hquote]
      cases h
      rfl
    · next hquote =>
      rw [if_neg hquote]
      split at h
      · next hescape =>
        rw [if_pos hescape]
        obtain ⟨octets, mid, hoctets, h⟩ := run_bind_eq_ok_iff.mp h
        obtain ⟨behind, mid', hbehind, h⟩ := run_bind_eq_ok_iff.mp h
        rw [run_bind_ok hoctets, run_bind_ok hbehind, List.append_assoc, List.append_assoc]
        cases h
        rw [List.append_assoc]
        rfl
      · exact nomatch h

/-- Octets that stand for themselves are kept. -/
theorem run_stringOctets_plain {plain octets : List UInt8} (hplain : ∀ b ∈ plain, isPlain b = true)
    (h : StateT.run (stringOctets n) input = .ok (octets, rest)) :
    StateT.run (stringOctets n) (plain ++ input) = .ok (plain ++ octets, rest) := by
  cases n with
  | zero => exact nomatch h
  | succ n =>
    rw [run_stringOctets_succ] at h ⊢
    rw [List.takeWhile_append_of_pos hplain, List.dropWhile_append_of_pos hplain]
    exact run_behindPlain_append plain h

/-- An escape by code unit is read as its character. -/
theorem run_escape {c : Char} (h : c.toNat < 0x80) (rest : List UInt8) :
    StateT.run escape (['u', '0', '0', Nat.digitChar (c.toNat / 16),
      Nat.digitChar (c.toNat % 16)].map octet ++ rest) = .ok (Utf8.encodeChar c, rest) := by
  have hall : ∀ m < 0x80, StateT.run escape (['u', '0', '0', Nat.digitChar (m / 16),
      Nat.digitChar (m % 16)].map octet) = .ok (Utf8.encodeChar (Char.ofNat m), []) := by
    decide +kernel
  have hrun := hall c.toNat h
  rw [Char.ofNat_toNat] at hrun
  exact undisturbed_escape _ _ hrun

/-- A character beyond ASCII needs no escape. -/
theorem plain_encodeChar {c : Char} (h : 0x80 ≤ c.toNat) :
    (Utf8.encodeChar c).all isPlain = true := by
  have hplain : ∀ b : UInt8, 0x80 ≤ b.toNat → isPlain b = true := by decide +kernel
  exact List.all_eq_true.mpr fun b hb => hplain b (Utf8.le_of_mem_encodeChar h hb)

/-- The characters of a string, each as it is spelled, up to the quote that ends it. -/
theorem run_stringOctets (cs : List Char) (hn : cs.length < n) (rest : List UInt8) :
    StateT.run (stringOctets n) (cs.flatMap spelled ++ octet '"' :: rest) =
      .ok (Utf8.encode cs, rest) := by
  induction cs generalizing n with
  | nil =>
    obtain ⟨n, rfl⟩ : ∃ m, n = m + 1 := ⟨n - 1, by omega⟩
    rfl
  | cons c cs ih =>
    rw [List.flatMap_cons, List.append_assoc, Utf8.encode_cons, spelled]
    by_cases hplain : (Utf8.encodeChar c).all isPlain = true
    · rw [if_pos hplain]
      exact run_stringOctets_plain (List.all_eq_true.mp hplain) (ih (Nat.lt_of_succ_lt hn))
    · rw [if_neg hplain]
      have hascii : c.toNat < 0x80 := Nat.lt_of_not_le fun h => hplain (plain_encodeChar h)
      obtain ⟨n, rfl⟩ : ∃ m, n = m + 1 := ⟨n - 1, by omega⟩
      have hopen : ∀ tail, StateT.run (stringOctets (n + 1)) (octet '\\' :: tail) =
          StateT.run (do
            let octets ← escape
            let rest ← stringOctets n
            return octets ++ rest) tail := fun _ => rfl
      rw [List.map_cons, List.cons_append, hopen, run_bind_ok (run_escape hascii _),
        run_bind_ok (ih (by simpa using hn))]
      rfl

/-- A text between quotes. -/
def quoted (s : String) : List UInt8 := octet '"' :: (s.toList.flatMap spelled ++ [octet '"'])

/-- There is at least an octet for each character. -/
theorem length_le_length_flatMap (cs : List Char) :
    cs.length ≤ (cs.flatMap spelled).length := by
  induction cs with
  | nil => exact Nat.le_refl 0
  | cons c cs ih =>
    have hpos : 0 < (spelled c).length := by
      rw [spelled]
      split
      · exact List.length_pos_iff.mpr (Utf8.encodeChar_ne_nil c)
      · exact Nat.succ_pos _
    rw [List.flatMap_cons, List.length_cons, List.length_append]
    omega

/-- **A string is read as it is spelled.** -/
theorem run_string (s : String) (rest : List UInt8) :
    StateT.run string (s.toList.flatMap spelled ++ octet '"' :: rest) = .ok (s, rest) := by
  have hbound : s.toList.length <
      (s.toList.flatMap spelled ++ octet '"' :: rest).length + 1 := by
    have hlength := length_le_length_flatMap s.toList
    rw [List.length_append]
    omega
  rw [string, run_bind_ok (run_get _), run_bind_ok (run_stringOctets s.toList hbound rest),
    ← Utf8.bytes, Utf8.text?_bytes]
  rfl

end Reader

/-! ## 2. Numbers -/

/-- A number that some text says. -/
def Number.Spelled (n : Number) : Prop := ∃ text, Says 0 text (.number n)

namespace Reader

/-- A decimal digit. -/
def digit (d : Nat) : UInt8 := (0x30 + d).toUInt8

section Digits

variable {d : Nat} (hd : d < 10)
include hd

theorem isDigit_digit : isDigit (digit d) = true := by
  have hall : ∀ d < 10, isDigit (digit d) = true := by decide +kernel
  exact hall d hd

/-- A digit is read as what it stands for. -/
theorem toNat_digit : (digit d).toNat - 0x30 = d := by
  have hall : ∀ d < 10, (digit d).toNat - 0x30 = d := by decide +kernel
  exact hall d hd

theorem digit_eq_zero (h : digit d = octet '0') : d = 0 := by
  have hall : ∀ d < 10, digit d = octet '0' → d = 0 := by decide +kernel
  exact hall d hd h

end Digits

/-- The decimal digits of a number, without needless zeros. -/
def decimal (n : Nat) : List UInt8 :=
  if n < 10 then [digit n] else decimal (n / 10) ++ [digit (n % 10)]

theorem isDigit_decimal (n : Nat) : ∀ b ∈ decimal n, isDigit b = true := by
  induction n using decimal.induct with
  | case1 n hn =>
    rw [decimal, if_pos hn]
    exact List.forall_mem_singleton.mpr (isDigit_digit hn)
  | case2 n hn ih =>
    rw [decimal, if_neg hn, List.forall_mem_append]
    exact ⟨ih, List.forall_mem_singleton.mpr (isDigit_digit (Nat.mod_lt n (by decide)))⟩

/-- The first digit is zero only if it is the only one. -/
theorem decimal_eq_cons (n : Nat) :
    ∃ b ds, decimal n = b :: ds ∧ (b = octet '0' → n = 0) := by
  induction n using decimal.induct with
  | case1 n hn =>
    rw [decimal, if_pos hn]
    exact ⟨_, [], rfl, digit_eq_zero hn⟩
  | case2 n hn ih =>
    obtain ⟨b, ds, hds, hzero⟩ := ih
    rw [decimal, if_neg hn, hds]
    refine ⟨b, _, rfl, fun hb => ?_⟩
    have htenth := hzero hb
    omega

/-- Digits that fit are taken before the others. -/
theorem accumulate_append {s t : Nat} {ds : List UInt8} (h : accumulate s ds = (t, []))
    (es : List UInt8) : accumulate s (ds ++ es) = accumulate t es := by
  induction ds generalizing s with
  | nil => cases h; rfl
  | cons b ds ih =>
    rw [accumulate] at h
    rw [List.cons_append, accumulate]
    split at h
    · exact nomatch h
    · next hfits =>
      rw [if_neg hfits]
      exact ih h

/-- Digits are read as the number that they stand for, if it fits. -/
theorem accumulate_decimal {n : Nat} (h : n ≤ greatestSignificand) :
    accumulate 0 (decimal n) = (n, []) := by
  have hone : ∀ s d, d < 10 → 10 * s + d ≤ greatestSignificand →
      accumulate s [digit d] = (10 * s + d, []) := by
    intro s d hd hfits
    rw [accumulate, toNat_digit hd, if_neg (Nat.not_lt.mpr hfits), accumulate]
  induction n using decimal.induct with
  | case1 n hn =>
    rw [decimal, if_pos hn, hone 0 n hn (by omega), Nat.mul_zero, Nat.zero_add]
  | case2 n hn ih =>
    have hparts : 10 * (n / 10) + n % 10 = n := Nat.div_add_mod n 10
    rw [decimal, if_neg hn, accumulate_append (ih (by omega)),
      hone _ _ (Nat.mod_lt n (by decide)) (by omega), hparts]

/-- Digits alone are an integer. -/
theorem run_number {n : Nat} (h : n ≤ greatestSignificand) (negative : Bool) :
    StateT.run (number negative) (decimal n) = (whole negative n).map (·, []) := by
  obtain ⟨b, ds, hds, hzero⟩ := decimal_eq_cons n
  have hdigits := isDigit_decimal n
  have hb : isDigit b = true := hdigits b (by rw [hds]; exact List.mem_cons_self)
  have hread : StateT.run digits (decimal n) = .ok (decimal n, []) := by
    rw [run_digits, List.takeWhile_eq_self_iff.mpr hdigits, List.dropWhile_eq_nil_iff.mpr hdigits]
  have hlead : ¬ (((decimal n).head? == some (octet '0') && decide ((decimal n).length > 1)) =
      true) := by
    intro hboth
    obtain ⟨hhead, hlength⟩ := Bool.and_eq_true_iff.mp hboth
    have hn : n = 0 := hzero (by simpa [hds] using hhead)
    subst hn
    exact absurd hlength (by decide +kernel)
  have hpeek : StateT.run peek (decimal n) = .ok (some b, decimal n) := by
    rw [run_peek, hds]
    rfl
  rw [number, run_bind_ok hpeek]
  dsimp only
  rw [if_neg (by simp [hb])]
  -- behind the digits there is nothing, so neither a point nor an exponent
  refine Eq.trans (run_bind_ok hread) ?_
  rw [if_neg hlead, accumulate_decimal h]
  cases whole negative n with
  | ok v => rfl
  | error f => rfl

/-- A digit begins a number. -/
theorem run_value_digit {b : UInt8} {ds : List UInt8} (hb : isDigit b = true) :
    StateT.run (value 0) (b :: ds) =
      StateT.run (do return .number (← number false)) (b :: ds) := by
  have hall : ∀ b : UInt8, isDigit b = true → isSpace b = false ∧ b ≠ octet 'n' ∧ b ≠ octet 't' ∧
      b ≠ octet 'f' ∧ b ≠ octet '-' := by decide +kernel
  obtain ⟨hspace, hn, ht, hf, hminus⟩ := hall b hb
  have hnext : StateT.run next (b :: ds) = .ok (some b, b :: ds) := by
    rw [run_next, List.dropWhile_cons_of_neg (by simp [hspace])]
    rfl
  rw [value, valueBy, run_bind_ok hnext]
  simp [hn, ht, hf, hminus, hb]

/-- **Every integer of sixty-four bits has a text**, with a sign or without one. -/
theorem spelled_int {i : Int} (hlow : -0x8000000000000000 ≤ i) (hhigh : i ≤ greatestSignificand) :
    (Number.int i).Spelled := by
  rcases lt_or_ge i 0 with hneg | hpos
  · refine ⟨octet '-' :: decimal i.natAbs, ?_⟩
    have hfits : i.natAbs ≤ greatestSignificand := by
      rw [greatestSignificand]
      omega
    have hwhole : whole true i.natAbs = .ok (.int i) := by
      rw [whole, if_neg (by decide), if_neg (by omega)]
      congr 2
      omega
    have hsign : StateT.run (value 0) (octet '-' :: decimal i.natAbs) =
      StateT.run (do return .number (← number true)) (decimal i.natAbs) := rfl
    rw [Says, run_eq_ok_iff]
    refine ⟨[], blank_nil, ?_⟩
    rw [hsign, StateT.run_bind, run_number hfits, hwhole]
    rfl
  · refine ⟨decimal i.toNat, ?_⟩
    obtain ⟨b, ds, hds, -⟩ := decimal_eq_cons i.toNat
    have hb : isDigit b = true := isDigit_decimal i.toNat b (by rw [hds]; exact List.mem_cons_self)
    have hwhole : whole false i.toNat = .ok (.int i) := by
      rw [whole, if_pos (by decide), Int.toNat_of_nonneg hpos]
    rw [Says, run_eq_ok_iff]
    refine ⟨[], blank_nil, ?_⟩
    rw [hds, run_value_digit hb, ← hds, StateT.run_bind, run_number (by omega), hwhole]
    rfl

end Reader


/-! ## 3. Objects -/

namespace Members

/-- A member whose name is beyond the others comes last. -/
theorem insert_of_lt {ms : Members} {name : String} (h : ∀ m ∈ ms, m.1 < name) (v : Value) :
    insert name v ms = ms ++ [(name, v)] := by
  induction ms with
  | nil => rfl
  | cons m ms ih =>
    have hm : m.1 < name := h m List.mem_cons_self
    rw [insert, if_neg (String.lt_asymm hm), if_neg (ne_of_gt hm),
      ih fun m' hm' => h m' (List.mem_cons_of_mem m hm'), List.cons_append]

end Members

/-- A text says a member: its name between quotes, a colon and a text of its value. -/
def SaysMember (depth : Nat) (text : List UInt8) (m : String × Value) : Prop :=
  ∃ valueText, text = Reader.quoted m.1 ++ Reader.octet ':' :: valueText ∧ Says depth valueText m.2

namespace Reader

variable {depth : Nat}

/-- What an object does with its members. -/
def addMember (item : Reader Value) (ms : Members) (name : String) : Reader Members := do
  colon
  return ms.insert name (← item)

/-- A text that says a member is one more of an object that goes on behind it. -/
theorem run_member {text : List UInt8} {m : String × Value} (h : SaysMember depth text m)
    (hstops : Stops after) (before : Members) :
    ∃ mid blank, StateT.run memberName (text ++ after) = .ok (m.1, mid) ∧ Blank blank ∧
      StateT.run (addMember (value depth) before m.1) mid =
        .ok (before.insert m.1 m.2, blank ++ after) := by
  obtain ⟨valueText, rfl, hsays⟩ := h
  obtain ⟨blank, hblank, hrun⟩ := run_eq_ok_iff.mp hsays
  refine ⟨octet ':' :: (valueText ++ after), blank, ?_, hblank, ?_⟩
  · rw [quoted, List.append_assoc, List.cons_append, List.append_assoc]
    exact run_string m.1 (octet ':' :: (valueText ++ after))
  · have hcolon : StateT.run colon (octet ':' :: (valueText ++ after)) =
        .ok ((), valueText ++ after) := rfl
    rw [addMember, run_bind_ok hcolon,
      run_bind_ok (prolongs_value hstops (Nat.le_refl depth) _ _ hrun)]
    rfl

/-- The name of a member comes first. -/
theorem exists_cons_of_saysMember {text : List UInt8} {m : String × Value}
    (h : SaysMember depth text m) : ∃ tail, text = octet '"' :: tail := by
  obtain ⟨valueText, rfl, -⟩ := h
  exact ⟨_, List.cons_append⟩

/-- No number goes on at the end of an object. -/
theorem stops_brace (rest : List UInt8) : Stops (octet '}' :: rest) := by
  rintro _ ⟨⟩
  decide

/-- The rest of an object, behind a member of it. -/
theorem run_foldMembers_closing {texts : List (List UInt8)} {ms : Members}
    (h : List.Forall₂ (SaysMember depth) texts ms) {blank : List UInt8} (hblank : Blank blank)
    {bound : Nat} (hbound : texts.length < bound) {before : Members}
    (hsorted : (before ++ ms).Pairwise (·.1 < ·.1)) (rest : List UInt8) :
    StateT.run (foldMembers (addMember (value depth)) bound false before)
        (blank ++ closing texts (octet '}' :: rest)) = .ok (before ++ ms, octet '}' :: rest) := by
  induction h generalizing blank bound before with
  | nil =>
    obtain ⟨bound, rfl⟩ : ∃ n, bound = n + 1 := ⟨bound - 1, by omega⟩
    rw [closing, List.flatMap_nil, List.nil_append, foldMembers,
      run_bind_ok (run_moreMembers_end hblank rest false), List.append_nil]
    rfl
  | @cons text m texts ms hsays _ ih =>
    obtain ⟨bound, rfl⟩ : ∃ n, bound = n + 1 := ⟨bound - 1, by omega⟩
    have hstops := stops_closing (stops_brace rest) texts
    obtain ⟨mid, blank', hname, hblank', hmember⟩ := run_member hsays hstops before
    obtain ⟨tail, rfl⟩ := exists_cons_of_saysMember hsays
    have hlast : ∀ b ∈ before, b.1 < m.1 := fun b hb =>
      (List.pairwise_append.mp hsorted).2.2 b hb m List.mem_cons_self
    have hmore := run_moreMembers_comma hblank (tail ++ closing texts (octet '}' :: rest))
    have hadded : before ++ m :: ms = before ++ [m] ++ ms := by simp
    rw [hadded] at hsorted ⊢
    rw [Members.insert_of_lt hlast] at hmember
    rw [closing_cons, List.cons_append, foldMembers, run_bind_ok hmore, if_pos rfl,
      ← List.cons_append, run_bind_ok hname, run_bind_ok hmember]
    exact ih hblank' (by simpa using hbound) hsorted

theorem run_foldMembers_listed {texts : List (List UInt8)} {ms : Members}
    (h : List.Forall₂ (SaysMember depth) texts ms) {bound : Nat} (hbound : texts.length < bound)
    (hsorted : ms.Pairwise (·.1 < ·.1)) (rest : List UInt8) :
    StateT.run (foldMembers (addMember (value depth)) bound true [])
        (listed texts (octet '}' :: rest)) = .ok (ms, octet '}' :: rest) := by
  obtain ⟨bound, rfl⟩ : ∃ n, bound = n + 1 := ⟨bound - 1, by omega⟩
  cases h with
  | nil =>
    have hend := run_moreMembers_end blank_nil rest true
    rw [List.nil_append] at hend
    rw [listed, foldMembers, run_bind_ok hend]
    rfl
  | @cons text m texts ms hsays hrest =>
    have hstops := stops_closing (stops_brace rest) texts
    obtain ⟨mid, blank, hname, hblank, hmember⟩ := run_member hsays hstops []
    obtain ⟨tail, rfl⟩ := exists_cons_of_saysMember hsays
    have hmore := run_moreMembers_first blank_nil (tail ++ closing texts (octet '}' :: rest))
    rw [List.nil_append] at hmore
    rw [listed, List.cons_append, foldMembers, run_bind_ok hmore, if_pos rfl,
      ← List.cons_append, run_bind_ok hname, run_bind_ok hmember]
    exact run_foldMembers_closing hrest hblank (by simpa using hbound) hsorted rest

theorem run_members_eq (item : Reader Value) (input : List UInt8) :
    StateT.run (members item) input = StateT.run (do
      let ms ← foldMembers (addMember item) (input.length + 1) true []
      endObject
      return ms) input := rfl

/-- **A list of texts that say members is read as the object of them**, if their names ascend. -/
theorem run_members {texts : List (List UInt8)} {ms : Members}
    (h : List.Forall₂ (SaysMember depth) texts ms) (hsorted : ms.Pairwise (·.1 < ·.1))
    (rest : List UInt8) :
    StateT.run (members (value depth)) (listed texts (octet '}' :: rest)) = .ok (ms, rest) := by
  have hbound := length_lt_length_listed texts (List.cons_ne_nil (octet '}') rest)
  have hend : StateT.run endObject (octet '}' :: rest) = .ok ((), rest) := rfl
  rw [run_members_eq, run_bind_ok (run_foldMembers_listed h hbound hsorted rest),
    run_bind_ok hend]
  rfl

end Reader

/-! ## 4. Values -/

/-- **A value of a document**: lists and objects are at most `depth` inside one another, members
ascend by name, and numbers are those that some text says. -/
inductive Value.Proper : Nat → Value → Prop
  | null {depth : Nat} : Proper depth .null
  | bool {depth : Nat} (b : Bool) : Proper depth (.bool b)
  | number {depth : Nat} {n : Number} (h : n.Spelled) : Proper depth (.number n)
  | string {depth : Nat} (s : String) : Proper depth (.string s)
  | array {depth : Nat} {items : List Value} (h : ∀ v ∈ items, Proper depth v) :
    Proper (depth + 1) (.array items)
  | object {depth : Nat} {ms : Members} (hsorted : ms.Pairwise (·.1 < ·.1))
    (h : ∀ m ∈ ms, Proper depth m.2) : Proper (depth + 1) (.object ms)

/-- Each of some things has something to it, in order. -/
theorem exists_forall₂ {α β : Type} {r : α → β → Prop} {bs : List β}
    (h : ∀ b ∈ bs, ∃ a, r a b) : ∃ as, List.Forall₂ r as bs := by
  induction bs with
  | nil => exact ⟨[], .nil⟩
  | cons b bs ih =>
    obtain ⟨a, ha⟩ := h b List.mem_cons_self
    obtain ⟨as, has⟩ := ih fun b' hb' => h b' (List.mem_cons_of_mem b hb')
    exact ⟨a :: as, .cons ha has⟩

/-- A text that is read to its end says what it is read as. -/
theorem says_of_run {depth : Nat} {text : List UInt8} {v : Value}
    (h : StateT.run (Reader.value depth) text = .ok (v, [])) : Says depth text v :=
  Reader.run_eq_ok_iff.mpr ⟨[], Reader.blank_nil, h⟩

theorem says_string (s : String) : Says 0 (Reader.quoted s) (.string s) := by
  have hopen : StateT.run (Reader.value 0) (Reader.quoted s) = StateT.run (do
      return .string (← Reader.string)) (s.toList.flatMap Reader.spelled ++ [Reader.octet '"']) :=
    rfl
  refine says_of_run ?_
  rw [hopen, Reader.run_bind_ok (Reader.run_string s [])]
  rfl

theorem says_array {depth : Nat} {texts : List (List UInt8)} {items : List Value}
    (h : List.Forall₂ (Says depth) texts items) :
    Says (depth + 1) (Reader.octet '[' :: Reader.listed texts [Reader.octet ']'])
      (.array items) := by
  have hopen : StateT.run (Reader.value (depth + 1))
      (Reader.octet '[' :: Reader.listed texts [Reader.octet ']']) = StateT.run (do
        return .array (← Reader.items (Reader.value depth)))
        (Reader.listed texts [Reader.octet ']']) := rfl
  have hitems : StateT.run (Reader.items (Reader.value depth))
      (Reader.listed texts [Reader.octet ']']) = .ok (items, []) :=
    Reader.run_items h Reader.blank_nil []
  refine says_of_run ?_
  rw [hopen, Reader.run_bind_ok hitems]
  rfl

theorem says_object {depth : Nat} {texts : List (List UInt8)} {ms : Members}
    (h : List.Forall₂ (SaysMember depth) texts ms) (hsorted : ms.Pairwise (·.1 < ·.1)) :
    Says (depth + 1) (Reader.octet '{' :: Reader.listed texts [Reader.octet '}'])
      (.object ms) := by
  have hopen : StateT.run (Reader.value (depth + 1))
      (Reader.octet '{' :: Reader.listed texts [Reader.octet '}']) = StateT.run (do
        return .object (← Reader.members (Reader.value depth)))
        (Reader.listed texts [Reader.octet '}']) := rfl
  refine says_of_run ?_
  rw [hopen, Reader.run_bind_ok (Reader.run_members h hsorted [])]
  rfl

/-- **Every value of a document has a text.** -/
theorem Value.Proper.exists_text {depth : Nat} {v : Value} (h : Proper depth v) :
    ∃ text, Says depth text v := by
  induction h with
  | null => exact ⟨_, (says_of_run rfl : Says 0 (['n', 'u', 'l', 'l'].map Reader.octet) _).mono
      (Nat.zero_le _)⟩
  | bool b =>
    cases b with
    | true => exact ⟨_, (says_of_run rfl : Says 0 (['t', 'r', 'u', 'e'].map Reader.octet) _).mono
        (Nat.zero_le _)⟩
    | false =>
      exact ⟨_, (says_of_run rfl : Says 0 (['f', 'a', 'l', 's', 'e'].map Reader.octet) _).mono
        (Nat.zero_le _)⟩
  | number h =>
    obtain ⟨text, htext⟩ := h
    exact ⟨text, htext.mono (Nat.zero_le _)⟩
  | string s => exact ⟨_, (says_string s).mono (Nat.zero_le _)⟩
  | array _ ih =>
    obtain ⟨texts, htexts⟩ := exists_forall₂ ih
    exact ⟨_, says_array htexts⟩
  | object hsorted _ ih =>
    have hmembers : ∀ m ∈ _, ∃ text, SaysMember _ text m := fun m hm => by
      obtain ⟨text, htext⟩ := ih m hm
      exact ⟨_, text, rfl, htext⟩
    obtain ⟨texts, htexts⟩ := exists_forall₂ hmembers
    exact ⟨_, says_object htexts hsorted⟩

end Json
end TokenTrust

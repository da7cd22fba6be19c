/-
# Tokens that are not valid yet

A token may say from when on it is valid and when it was issued, as any number that JSON can write.
What the number stands for is a rational (`Json.Number.value`), and the date is that number without
its fraction.  As long as the date fits sixty-four bits, a token whose date has not come, even with
the allowance for clocks that differ, is refused, whatever else it says
(`early_refused_or_overlooked`).  The nearest number that fits is taken where a sum does not, and
that never lets a date come earlier (`isFuture_of_lt`).

A number beyond sixty-four bits is no date at all (`Json.Number.whole?_of_huge`).  The check then
sees no claim, so the token passes as if it had never said from when on it is valid
(`huge_start_overlooked`).  With the end of validity it is the other way round: without a date that
can be read, the token is refused.
-/
import Mathlib
import TokenTrust.Check.Timestamp
import TokenTrust.Check.Validator
import TokenTrust.Proofs.Action
import TokenTrust.Proofs.Binary64

namespace TokenTrust

/-! ## 1. Numbers as dates -/

namespace Json.Number

/-- The number that is written in a document. -/
def value : Number → ℚ
  | .int n => n
  | .double x => x.value

@[simp] theorem value_int (i : ℤ) : (int i).value = i := rfl
@[simp] theorem value_double (x : Binary64) : (double x).value = x.value := rfl

/-- A number that fits sixty-four bits is a date, its fraction dropped. -/
theorem whole?_of_fits {n : Number} (hleast : -2 ^ 63 < n.value) (hgreatest : n.value < 2 ^ 63) :
    n.whole? = some (towardZero n.value) := by
  cases n with
  | int i =>
    rw [value_int] at hleast hgreatest
    have hleast' : -2 ^ 63 < i := by exact_mod_cast hleast
    have hgreatest' : i < 2 ^ 63 := by exact_mod_cast hgreatest
    have hint : int64? (.int i) = some i := if_pos (by omega)
    rw [whole?, hint, value_int, towardZero_intCast]
  | double x =>
    have hmagnitude : x.magnitude < (0x8000000000000000 : ℕ) := by
      rw [← Binary64.abs_value]
      refine (abs_lt.mpr ⟨hleast, hgreatest⟩).trans_eq ?_
      norm_num
    have hbelow : x.magnitudeBelow 0x8000000000000000 = true :=
      Binary64.magnitudeBelow_iff.mpr hmagnitude
    simp only [whole?, int64?, toDouble?, Option.filter, hbelow, if_true, Option.map_some,
      Binary64.truncate_eq, value_double]

/-- A number that is no integer of sixty-four bits is no date if the double next to it is too far
from zero. -/
theorem whole?_of_far {n : Number} (hint : n.int64? = none)
    (hfar : ∀ x, n.toDouble? = some x → (2 : ℚ) ^ 63 ≤ x.magnitude) : n.whole? = none := by
  have hnone : n.toDouble?.filter (·.magnitudeBelow 0x8000000000000000) = none := by
    rw [Option.filter_eq_none_iff]
    intro x hx
    rw [Binary64.magnitudeBelow_iff, not_lt]
    refine le_trans ?_ (hfar x hx)
    norm_num
  rw [whole?, hint, hnone, Option.map_none]

/-- **A number beyond sixty-four bits is no date.**  An integer is rounded to a double first, and
that does not bring it back. -/
theorem whole?_of_huge {n : Number} (h : 2 ^ 63 ≤ n.value) : n.whole? = none := by
  cases n with
  | int i =>
    rw [value_int] at h
    have hi : 2 ^ 63 ≤ i := by exact_mod_cast h
    refine whole?_of_far (if_neg (by omega)) fun x hx => ?_
    obtain ⟨y, hy, rfl⟩ := Option.map_eq_some_iff.mp hx
    rw [Binary64.magnitude_withSign]
    exact Binary64.le_magnitude_of_ofNat? (by decide) (by omega) hy
  | double x =>
    refine whole?_of_far rfl fun y hy => ?_
    obtain rfl := Option.some.inj hy
    rw [← Binary64.abs_value]
    exact h.trans (le_abs_self _)

end Json.Number

/-! ## 2. What the check asks -/

namespace Token

/-- A token without what it says under some name. -/
def without (t : Token) (name : String) : Token :=
  { t with claims := t.claims.filter (·.1 ≠ name) }

theorem claim?_without_self (t : Token) (name : String) : (t.without name).claim? name = none := by
  have hgone : (t.claims.filter (·.1 ≠ name)).find? (·.1 == name) = none := by
    rw [List.find?_eq_none]
    intro p hp
    simpa using (List.mem_filter.mp hp).2
  rw [claim?, without, Json.Members.get?, hgone, Option.map_none]

theorem claim?_without_of_ne (t : Token) {name other : String} (h : other ≠ name) :
    (t.without name).claim? other = t.claim? other := by
  rw [claim?, claim?, without, Json.Members.get?, Json.Members.get?, List.find?_filter]
  congr 2
  funext p
  by_cases hp : p.1 = other
  · simp [hp, h]
  · simp [hp]

/-- A claim that is no date says as much as no claim. -/
theorem date?_without {t : Token} {name : String} (h : t.date? name = none) (other : String) :
    (t.without name).date? other = t.date? other := by
  by_cases ho : other = name
  · rw [ho, h, date?, claim?_without_self]
    rfl
  · rw [date?, date?, claim?_without_of_ne t ho]

theorem date?_of_number {t : Token} {name : String} {n : Json.Number}
    (h : t.claim? name = some (.number n)) : t.date? name = n.whole? := by
  rw [date?, h]
  rfl

end Token

namespace Timestamp

variable {skew : Duration} {now : Int} {t : Token}

/-- **What the check of the dates asks**: that the token says when it ends, that this has not come,
and that no date of its beginning is still to come. -/
theorem check_eq_ok_iff : check skew now t = .ok () ↔
    (∃ expiration, t.expiration? = some expiration ∧
      now ≤ clamp (expiration + skewSeconds skew)) ∧
    (∀ start, t.notBefore? = some start → isFuture (skewSeconds skew) now start = false) ∧
    ∀ issued, t.issuedAt? = some issued → isFuture (skewSeconds skew) now issued = false := by
  have hlast (p : Prop) [Decidable p] (e : Error) :
      (if p then throw e else pure () : Except Error Unit) = .ok () ↔ ¬ p := by
    split <;> simp [*, pure, Except.pure]
  have hend : (pure () : Except Error Unit) = .ok () ↔ True := iff_true_intro rfl
  unfold check
  cases t.expiration? with
  | none => simp
  | some e =>
    cases t.notBefore? with
    | none =>
      cases t.issuedAt? with
      | none => simp only [guard_eq_ok_iff, hend]; simp
      | some issued => simp only [guard_eq_ok_iff, hlast]; simp
    | some start =>
      cases t.issuedAt? with
      | none => simp only [guard_eq_ok_iff, hend]; simp
      | some issued => simp only [guard_eq_ok_iff, hlast]; simp

/-- A number is too great for sixty-four bits exactly if it is without its fraction. -/
theorem greatest_lt_iff {q : ℚ} : greatest < towardZero q ↔ 2 ^ 63 ≤ q := by
  have hbound : greatest + 1 = 2 ^ 63 := by decide
  rw [← Int.add_one_le_iff, hbound, le_towardZero_iff (by decide)]
  norm_cast

theorem least_lt_iff {q : ℚ} : least < towardZero q ↔ -2 ^ 63 < q := by
  have hbound : least = -2 ^ 63 := by decide
  rw [hbound, lt_towardZero_iff (by decide)]
  norm_cast

/-- The nearest number that fits, by the bounds. -/
theorem clamp_eq (n : Int) : clamp n = max least (min greatest n) := by
  have hbounds : least ≤ greatest := by decide
  rw [clamp]
  by_cases hlow : n < least
  · rw [if_pos hlow]
    omega
  · rw [if_neg hlow]
    by_cases hhigh : greatest < n
    · rw [if_pos hhigh]
      omega
    · rw [if_neg hhigh]
      omega

/-- **A date that has not come is in the future**, also where an allowance does not fit. -/
theorem isFuture_of_lt {date : Int} (hfits : date ≤ greatest) (h : now < date - skew.seconds) :
    isFuture (skewSeconds skew) now date = true := by
  have hbounds : least ≤ 0 ∧ 0 ≤ greatest := by decide
  have hskew : 0 ≤ skewSeconds skew ∧ skewSeconds skew ≤ skew.seconds := by
    rw [skewSeconds, clamp_eq]
    omega
  rw [isFuture, decide_eq_true_iff, clamp_eq]
  omega

/-- What the check of the dates finds, as a validator. -/
theorem run_validator (out : Surroundings) (s : State) :
    (Validator.ofDated (check skew) t).run out s =
      (.ok (Verdict.ofCheck (check skew out.today t)), s) := rfl

/-- **A token that is not valid yet is refused, unless it says so with a number that is too great.**
The token says when it was issued or from when on it is valid, with any number.  The date that the
number stands for has not come, even with the allowance.

* If the date fits sixty-four bits, the token is invalid.
* If it does not, the check overlooks what the token says there. -/
theorem early_refused_or_overlooked {name : String} {n : Json.Number} {out : Surroundings}
    (s : State) (hname : name = "nbf" ∨ name = "iat")
    (hclaim : t.claim? name = some (.number n)) (hclock : least ≤ out.today)
    (hearly : out.today < towardZero n.value - skew.seconds) :
    (towardZero n.value ≤ greatest →
      ∃ d, (Validator.ofDated (check skew) t).run out s = (.ok (.invalid d), s)) ∧
    (greatest < towardZero n.value →
      (Validator.ofDated (check skew) t).run out s =
        (Validator.ofDated (check skew) (t.without name)).run out s) := by
  have hdate : t.date? name = n.whole? := Token.date?_of_number hclaim
  simp only [run_validator, Prod.mk.injEq, and_true, Except.ok.injEq]
  refine ⟨fun hfits => ?_, fun hhuge => ?_⟩
  · have hleast : least < towardZero n.value := by omega
    have hwhole : n.whole? = some (towardZero n.value) :=
      Json.Number.whole?_of_fits (least_lt_iff.mp hleast)
        (not_le.mp (greatest_lt_iff.not.mp (not_lt.mpr hfits)))
    have hfuture := isFuture_of_lt hfits hearly
    cases hcheck : check skew out.today t with
    | error e => exact ⟨_, rfl⟩
    | ok u =>
      obtain ⟨-, hstart, hissued⟩ := check_eq_ok_iff.mp hcheck
      rcases hname with rfl | rfl
      · exact absurd (hstart _ (hdate.trans hwhole)) (by simp [hfuture])
      · exact absurd (hissued _ (hdate.trans hwhole)) (by simp [hfuture])
  · have hnone : t.date? name = none :=
      hdate.trans (Json.Number.whole?_of_huge (greatest_lt_iff.mp hhuge))
    have hsame := Token.date?_without hnone
    simp only [check, Token.expiration?, Token.notBefore?, Token.issuedAt?, hsame]

/-- The token says that it is valid from the greatest double on that fits. -/
theorem early_refused_or_overlooked_greatest_double :
    let n : Json.Number := .double ⟨false, 9007199254740991, 10⟩
    let t : Token := ⟨"", 0, [], [("exp", .number (.int 4102444800)), ("nbf", .number n)], []⟩
    let out : Surroundings := ⟨fun _ => 0, 1572060769, fun _ _ => .crash⟩
    out.today < towardZero n.value - defaultSkew.seconds ∧
      ∃ d, (Validator.ofDated (check defaultSkew) t).run out {} = (.ok (.invalid d), {}) := by
  intro n t out
  have hvalue : towardZero n.value = 9223372036854774784 :=
    (Binary64.truncate_eq _).symm.trans (by decide +kernel)
  have hearly : out.today < towardZero n.value - defaultSkew.seconds := by
    rw [hvalue]
    decide
  refine ⟨hearly, (early_refused_or_overlooked {} (Or.inl rfl) rfl (by decide) hearly).1 ?_⟩
  rw [hvalue]
  decide

/-- **A beginning beyond sixty-four bits is overlooked.**  A token that is to be valid from the
second 2 ^ 63 on is valid today. -/
theorem huge_start_overlooked :
    let text := "e30.eyJleHAiOjQxMDI0NDQ4MDAsIm5iZiI6OTIyMzM3MjAzNjg1NDc3NTgwOH0."
    let n : Json.Number := .int 9223372036854775808
    let t : Token := ⟨text, 63, [],
      [("exp", .number (.int 4102444800)), ("nbf", .number n)], []⟩
    let out : Surroundings := ⟨fun _ => 0, 1572060769, fun _ _ => .crash⟩
    Token.parse text = .ok t ∧ t.claim? "nbf" = some (.number n) ∧
      out.today < towardZero n.value - defaultSkew.seconds ∧
      (Validator.ofDated (check defaultSkew) t).run out {} = (.ok .valid, {}) := by
  intro text n t out
  have hparse : Token.parse text = .ok t := by cbv
  have hearly : out.today < towardZero n.value - defaultSkew.seconds := by
    rw [Json.Number.value_int, towardZero_intCast]
    decide
  exact ⟨hparse, rfl, hearly, by rfl⟩

end Timestamp
end TokenTrust

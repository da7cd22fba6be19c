/-
# When a token is in time

The dates of a token and the allowance are compared with the present in sixty-four bits, and where a
sum does not fit, the nearest number that does takes its place.  Over all integers there are three
conditions: the end of the token and the allowance reach up to the present (`Timestamp.Runs`), and
of the two beginnings, as far as the token says them, each has come (`Timestamp.Begun`).

The two are the same, for every present that sixty-four bits can hold.  A sum is cut at the greatest
number only, because an allowance is never below zero, and no present lies above that
(`Timestamp.clamp_add_lt_iff`).  A difference is cut at the least number only, and no present lies
below it (`Timestamp.lt_clamp_sub_iff`).  So a cut never decides, and the check finds what is wrong
first over all integers (`Timestamp.verdict_exact`).

Numbers beyond sixty-four bits are kept out, since they are no dates.
-/
import TokenTrust.Proofs.Dates

namespace TokenTrust

/-! ## 1. Dates that a token says -/

namespace Token

variable {t : Token} {name : String}

/-- The date that a claim stands for: the number that is written there, without its fraction,
however great it is. -/
def said? (t : Token) (name : String) : Option Int :=
  ((t.claim? name).bind Json.Value.number?).map fun n => towardZero n.value

/-- **A claim fits sixty-four bits**: it is missing, or it is no number, or it is a number strictly
between `-2 ^ 63` and `2 ^ 63`. -/
def Fits (t : Token) (name : String) : Prop :=
  ∀ n, t.claim? name = some (.number n) → -2 ^ 63 < n.value ∧ n.value < 2 ^ 63

theorem said?_eq_some_iff {d : Int} :
    t.said? name = some d ↔ ∃ n, t.claim? name = some (.number n) ∧ towardZero n.value = d := by
  rw [said?]
  cases t.claim? name with
  | none => simp
  | some v => cases v <;> simp [Json.Value.number?]

/-- The date that is read of a claim that fits is the one that it stands for. -/
theorem Fits.date?_eq (h : t.Fits name) : t.date? name = t.said? name := by
  unfold Fits at h
  rw [date?, said?]
  cases hc : t.claim? name with
  | none => rfl
  | some v =>
    cases v with
    | number n =>
      obtain ⟨hleast, hgreatest⟩ := h n hc
      exact Json.Number.whole?_of_fits hleast hgreatest
    | null => rfl
    | bool b => rfl
    | string s => rfl
    | array items => rfl
    | object ms => rfl

theorem Fits.bounds (h : t.Fits name) {d : Int} (hd : t.said? name = some d) :
    Timestamp.least < d ∧ d ≤ Timestamp.greatest := by
  obtain ⟨n, hn, rfl⟩ := said?_eq_some_iff.mp hd
  obtain ⟨hleast, hgreatest⟩ := h n hn
  refine ⟨Timestamp.least_lt_iff.mpr hleast, not_lt.mp ?_⟩
  intro hlt
  exact absurd (Timestamp.greatest_lt_iff.mp hlt) (not_le.mpr hgreatest)

end Token

namespace Timestamp

/-! ## 2. Sums that do not fit -/

section Saturation

variable {now date skew : Int}

/-- **A sum that is cut at the greatest number is not below any time that there is.** -/
theorem clamp_add_lt_iff (hdate : least ≤ date) (hskew : 0 ≤ skew) (hnow : now ≤ greatest) :
    clamp (date + skew) < now ↔ date + skew < now := by
  rw [clamp_eq]
  omega

/-- **A difference that is cut at the least number is not above any time that there is.** -/
theorem lt_clamp_sub_iff (hdate : date ≤ greatest) (hskew : 0 ≤ skew) (hnow : least ≤ now) :
    now < clamp (date - skew) ↔ now < date - skew := by
  rw [clamp_eq]
  omega

/-- An allowance that fits is taken as it is. -/
theorem skewSeconds_eq {skew : Duration} (h : (skew.seconds : Int) ≤ greatest) :
    skewSeconds skew = skew.seconds := by
  have hleast : least ≤ 0 := by decide
  rw [skewSeconds, clamp_eq]
  omega

end Saturation

/-! ## 3. Being in time, over all integers -/

/-- The token says until when it is valid, and with the allowance that has not passed. -/
def Runs (skew now : Int) (t : Token) : Prop :=
  ∃ d, t.said? "exp" = some d ∧ now ≤ d + skew

/-- If a claim is a date, then that has come, with the allowance. -/
def Begun (skew now : Int) (t : Token) (name : String) : Prop :=
  ∀ d, t.said? name = some d → d - skew ≤ now

/-- **Why a token is not in time.**  There is a case for each reason, in the order in which they are
looked for, and the reasons before it do not hold in it. -/
inductive Lapse (skew now : Int) (t : Token) : Error → Prop
  | endless (h : t.said? "exp" = none) : Lapse skew now t noExpiration
  | ended {d : Int} (hd : t.said? "exp" = some d) (h : d + skew < now) :
    Lapse skew now t (.expiredToken (Calendar.text d) (Calendar.text now))
  | early {d : Int} (hruns : Runs skew now t) (hd : t.said? "nbf" = some d) (h : now < d - skew) :
    Lapse skew now t (.notYetValid ("Jwt token is not valid before " ++ Calendar.text d ++
      ", time now: " ++ Calendar.text now))
  | ahead {d : Int} (hruns : Runs skew now t) (hbegun : Begun skew now t "nbf")
    (hd : t.said? "iat" = some d) (h : now < d - skew) :
    Lapse skew now t (.notYetValid ("Jwt token was issued in the future at " ++ Calendar.text d ++
      ", time now: " ++ Calendar.text now))

theorem begun_or_early (skew now : Int) (t : Token) (name : String) :
    Begun skew now t name ∨ ∃ d, t.said? name = some d ∧ now < d - skew := by
  by_cases h : Begun skew now t name
  · exact Or.inl h
  · unfold Begun at h
    push Not at h
    exact Or.inr h

/-- A token is in time, or there is a reason why it is not. -/
theorem inTime_or_lapse (skew now : Int) (t : Token) :
    (Runs skew now t ∧ Begun skew now t "nbf" ∧ Begun skew now t "iat") ∨
      ∃ e, Lapse skew now t e := by
  cases hexp : t.said? "exp" with
  | none => exact Or.inr ⟨_, .endless hexp⟩
  | some d =>
    by_cases hended : d + skew < now
    · exact Or.inr ⟨_, .ended hexp hended⟩
    have hruns : Runs skew now t := ⟨d, hexp, not_lt.mp hended⟩
    rcases begun_or_early skew now t "nbf" with hnbf | ⟨d, hd, hlt⟩
    · rcases begun_or_early skew now t "iat" with hiat | ⟨d, hd, hlt⟩
      · exact Or.inl ⟨hruns, hnbf, hiat⟩
      · exact Or.inr ⟨_, .ahead hruns hnbf hd hlt⟩
    · exact Or.inr ⟨_, .early hruns hd hlt⟩

/-! ## 4. What the check finds -/

section Exact

variable {now : Int} {t : Token} {skew : Duration} {name : String} {d : Int}

/-- The end is compared as an integer. -/
theorem ended_iff (hskew : (skew.seconds : Int) ≤ greatest) (hnow : now ≤ greatest)
    (hfits : t.Fits name) (hd : t.said? name = some d) :
    clamp (d + skewSeconds skew) < now ↔ d + skew.seconds < now := by
  obtain ⟨hlow, -⟩ := hfits.bounds hd
  rw [skewSeconds_eq hskew]
  exact clamp_add_lt_iff hlow.le (Int.natCast_nonneg _) hnow

/-- So is a beginning. -/
theorem isFuture_iff (hskew : (skew.seconds : Int) ≤ greatest) (hnow : least ≤ now)
    (hfits : t.Fits name) (hd : t.said? name = some d) :
    isFuture (skewSeconds skew) now d = true ↔ now < d - skew.seconds := by
  obtain ⟨-, hhigh⟩ := hfits.bounds hd
  rw [isFuture, decide_eq_true_iff, skewSeconds_eq hskew]
  exact lt_clamp_sub_iff hhigh (Int.natCast_nonneg _) hnow

theorem begun_iff (hskew : (skew.seconds : Int) ≤ greatest) (hnow : least ≤ now)
    (hfits : t.Fits name) :
    (∀ d, t.said? name = some d → isFuture (skewSeconds skew) now d = false) ↔
      Begun skew.seconds now t name := by
  constructor
  · intro h d hd
    have hnot : ¬ isFuture (skewSeconds skew) now d = true := by simp [h d hd]
    rw [isFuture_iff hskew hnow hfits hd] at hnot
    exact not_lt.mp hnot
  · intro h d hd
    rw [Bool.eq_false_iff, ne_eq, isFuture_iff hskew hnow hfits hd]
    exact not_lt.mpr (h d hd)

theorem runs_iff (hskew : (skew.seconds : Int) ≤ greatest) (hnow : now ≤ greatest)
    (hfits : t.Fits "exp") :
    (∃ d, t.said? "exp" = some d ∧ ¬ clamp (d + skewSeconds skew) < now) ↔
      Runs skew.seconds now t := by
  constructor
  · rintro ⟨d, hd, h⟩
    rw [ended_iff hskew hnow hfits hd] at h
    exact ⟨d, hd, not_lt.mp h⟩
  · rintro ⟨d, hd, h⟩
    refine ⟨d, hd, ?_⟩
    rw [ended_iff hskew hnow hfits hd]
    exact not_lt.mpr h

variable (hskew : (skew.seconds : Int) ≤ greatest) (hleast : least ≤ now)
  (hgreatest : now ≤ greatest)
variable (hexp : t.Fits "exp") (hnbf : t.Fits "nbf") (hiat : t.Fits "iat")

include hskew hleast hgreatest hexp hnbf hiat

/-- **The check accepts what is in time over all integers.** -/
theorem check_eq_ok_iff_inTime : check skew now t = .ok () ↔
    Runs skew.seconds now t ∧ Begun skew.seconds now t "nbf" ∧ Begun skew.seconds now t "iat" := by
  rw [check_eq_ok_iff, Token.expiration?, Token.notBefore?, Token.issuedAt?, hexp.date?_eq,
    hnbf.date?_eq, hiat.date?_eq, begun_iff hskew hleast hnbf, begun_iff hskew hleast hiat,
    ← runs_iff hskew hgreatest hexp]
  simp only [not_lt]

/-- **What is wrong first is what is reported.** -/
theorem Lapse.check_eq {e : Error} (h : Lapse skew.seconds now t e) :
    check skew now t = .error e := by
  unfold check
  rw [Token.expiration?, Token.notBefore?, Token.issuedAt?, hexp.date?_eq, hnbf.date?_eq,
    hiat.date?_eq]
  cases h with
  | endless hd =>
    rw [hd]
    rfl
  | ended hd h =>
    have hended := (ended_iff hskew hgreatest hexp hd).mpr h
    rw [hd]
    simp only [hended, if_true]
    rfl
  | early hruns hd h =>
    obtain ⟨end', hend, hnot⟩ := (runs_iff hskew hgreatest hexp).mpr hruns
    have hfuture := (isFuture_iff hskew hleast hnbf hd).mpr h
    rw [hend, hd]
    simp only [hnot, if_false, hfuture, if_true]
    rfl
  | ahead hruns hbegun hd h =>
    obtain ⟨end', hend, hnot⟩ := (runs_iff hskew hgreatest hexp).mpr hruns
    have hcome := (begun_iff hskew hleast hnbf).mpr hbegun
    have hfuture := (isFuture_iff hskew hleast hiat hd).mpr h
    rw [hend, hd]
    cases hstart : t.said? "nbf" with
    | none =>
      simp only [hnot, if_false, hfuture, if_true]
      rfl
    | some start =>
      simp only [hnot, if_false, hcome start hstart, Bool.false_eq_true, hfuture, if_true]
      rfl

theorem check_eq_error_iff_lapse {e : Error} :
    check skew now t = .error e ↔ Lapse skew.seconds now t e := by
  constructor
  · intro h
    rcases inTime_or_lapse skew.seconds now t with hin | ⟨e', hlapse⟩
    · rw [(check_eq_ok_iff_inTime hskew hleast hgreatest hexp hnbf hiat).mpr hin] at h
      exact nomatch h
    · have hsame := hlapse.check_eq hskew hleast hgreatest hexp hnbf hiat
      rw [h] at hsame
      obtain rfl := Except.error.inj hsame
      exact hlapse
  · exact fun h => h.check_eq hskew hleast hgreatest hexp hnbf hiat

end Exact

/-- **The verdict on the dates of a token is exact.**  The present is any time that sixty-four bits
hold, the allowance has at most as many whole seconds as they hold, and each of the three claims is
missing, no number, or a number within them.  The token is valid exactly if, over all integers, it
says an end, the present is not beyond the end and the allowance, and no beginning that it says,
less the allowance, is beyond the present.  Otherwise the description is the one of the first
reason: there is no end, it has passed, the token is not valid yet, it was issued in the future. -/
theorem verdict_exact {out : Surroundings} {skew : Duration} {t : Token}
    (hskew : (skew.seconds : Int) ≤ greatest)
    (hclock : least ≤ out.today ∧ out.today ≤ greatest)
    (hexp : t.Fits "exp") (hnbf : t.Fits "nbf") (hiat : t.Fits "iat") (s : State) :
    ((Validator.ofDated (check skew) t).run out s = (.ok .valid, s) ↔
      Runs skew.seconds out.today t ∧ Begun skew.seconds out.today t "nbf" ∧
        Begun skew.seconds out.today t "iat") ∧
    ∀ description, (Validator.ofDated (check skew) t).run out s =
        (.ok (.invalid description), s) ↔
      ∃ e, Lapse skew.seconds out.today t e ∧ description = e.message := by
  obtain ⟨hleast, hgreatest⟩ := hclock
  have hok := check_eq_ok_iff_inTime hskew hleast hgreatest hexp hnbf hiat
  have herror (e : Error) :=
    check_eq_error_iff_lapse hskew hleast hgreatest hexp hnbf hiat (e := e)
  simp only [← hok, ← herror, run_validator, Prod.mk.injEq, and_true, Except.ok.injEq]
  cases check skew out.today t with
  | ok u => simp [Verdict.ofCheck]
  | error e => simp [Verdict.ofCheck, Verdict.ofError, eq_comm]

/-- The present, the allowance and the dates are as far out as they can be.  The sum of the end and
the allowance does not fit sixty-four bits, nor does the difference of the beginning and the
allowance. -/
theorem verdict_exact_extremes :
    let skew : Duration := Duration.ofSeconds 9223372036854775807
    let t : Token := ⟨"", 0, [], [("exp", .number (.int 9223372036854775807)),
      ("iat", .string "never"), ("nbf", .number (.int (-9223372036854775807)))], []⟩
    let out : Surroundings := ⟨fun _ => 0, -9223372036854775808, fun _ _ => .crash⟩
    t.Fits "exp" ∧ t.Fits "nbf" ∧ t.Fits "iat" ∧
      (Validator.ofDated (check skew) t).run out {} = (.ok .valid, {}) := by
  intro skew t out
  have hexp : t.Fits "exp" := by
    rintro n ⟨⟩
    norm_num
  have hnbf : t.Fits "nbf" := by
    rintro n ⟨⟩
    norm_num
  have hiat : t.Fits "iat" := by
    rintro n ⟨⟩
  have hruns : Runs skew.seconds out.today t :=
    ⟨9223372036854775807, Token.said?_eq_some_iff.mpr ⟨_, rfl, towardZero_intCast _⟩, by decide⟩
  have hstart : Begun skew.seconds out.today t "nbf" := by
    intro d hd
    obtain ⟨n, ⟨⟩, rfl⟩ := Token.said?_eq_some_iff.mp hd
    rw [Json.Number.value_int, towardZero_intCast]
    decide
  have hissued : Begun skew.seconds out.today t "iat" := by
    intro d hd
    obtain ⟨n, ⟨⟩, -⟩ := Token.said?_eq_some_iff.mp hd
  have hexact := @verdict_exact out skew t (by decide) (by decide) hexp hnbf hiat {}
  exact ⟨hexp, hnbf, hiat, hexact.1.mpr ⟨hruns, hstart, hissued⟩⟩

end Timestamp
end TokenTrust

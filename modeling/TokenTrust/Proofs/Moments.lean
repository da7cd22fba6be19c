/-
# What a printed time tells

A moment is printed by the date and the time of day if its year has four digits, and else in seconds
(`Tells`).  The numbers of a date and a time have as many digits as are set for them, so each is
spelled in one way only (`Spelled.unique`), and no more than one date falls on a day
(`fallsOn_iff`).  So the rule leaves no choice, and what is written is the one text by the rule.

It can be read back: a text with a date is taken apart at its marks, and any other one is the number
of seconds (`read?`).  No number has a letter in it, so the two are never mistaken for each other
(`mem_of_stamped?_eq_some`, `not_mem_toString`).  Hence no two moments are printed alike, those
before the first year and after the last one included (`text_tells_moment`).
-/
import TokenTrust.Proofs.Calendar

namespace TokenTrust
namespace Calendar

/-! ## 1. Numbers in so many digits -/

/-- **Decimal digits**, as many as asked for, that stand for a number. -/
structure Spelled (width n : ℕ) (cs : List Char) : Prop where
  length : cs.length = width
  digits : ∀ c ∈ cs, c.isDigit = true
  value : Nat.ofDigitChars 10 cs 0 = n

theorem spelled_padded {width n : ℕ} (hwidth : 0 < width) (h : n < 10 ^ width) :
    Spelled width n (padded width n).toList := by
  have hlength : (Nat.toDigits 10 n).length ≤ width :=
    (Nat.length_toDigits_le_iff (by decide) hwidth).mpr h
  rw [padded, String.toList_ofList]
  refine ⟨?_, fun c hc => ?_, ?_⟩
  · rw [List.length_append, List.length_replicate, Nat.sub_add_cancel hlength]
  · rcases List.mem_append.mp hc with hzero | hdigit
    · rw [List.eq_of_mem_replicate hzero]
      rfl
    · exact Nat.isDigit_of_mem_toDigits (by decide) (by decide) hdigit
  · rw [Nat.ofDigitChars_append, Nat.ofDigitChars_replicate_zero, Nat.mul_zero,
      Nat.ofDigitChars_ten_toDigits]

theorem toNat_of_isDigit {c : Char} (h : c.isDigit = true) : 48 ≤ c.toNat ∧ c.toNat ≤ 57 := by
  simpa [Char.isDigit, UInt32.le_iff_toNat_le] using h

namespace Spelled

variable {width n : ℕ} {cs ds : List Char}

/-- The last digit is the remainder by ten, and the others spell the quotient. -/
theorem exists_last (h : Spelled (width + 1) n cs) : ∃ ds c, cs = ds ++ [c] ∧
    c.isDigit = true ∧ c.toNat - 48 = n % 10 ∧ Spelled width (n / 10) ds := by
  obtain ⟨hlength, hdigits, rfl⟩ := h
  rcases List.eq_nil_or_concat' cs with rfl | ⟨ds, c, rfl⟩
  · exact absurd hlength (by simp)
  · have hc : c.isDigit = true := hdigits c (by simp)
    have hrange := toNat_of_isDigit hc
    have hvalue : Nat.ofDigitChars 10 (ds ++ [c]) 0 =
        10 * Nat.ofDigitChars 10 ds 0 + (c.toNat - 48) := Nat.ofDigitChars_append 0
    have hrest : ∀ d ∈ ds, d.isDigit = true := fun d hd => hdigits d (by simp [hd])
    exact ⟨ds, c, rfl, hc, by omega, by simpa using hlength, hrest, by omega⟩

theorem lt (h : Spelled width n cs) : n < 10 ^ width := by
  induction width generalizing n cs with
  | zero =>
    obtain ⟨hlength, -, rfl⟩ := h
    rw [List.length_eq_zero_iff.mp hlength]
    decide
  | succ width ih =>
    obtain ⟨ds, c, -, -, -, hds⟩ := h.exists_last
    have := ih hds
    rw [pow_succ]
    omega

/-- **A number is spelled in one way only.** -/
theorem unique (hcs : Spelled width n cs) (hds : Spelled width n ds) : cs = ds := by
  induction width generalizing n cs ds with
  | zero => rw [List.length_eq_zero_iff.mp hcs.length, List.length_eq_zero_iff.mp hds.length]
  | succ width ih =>
    obtain ⟨cs, c, rfl, hc, hclast, hcs⟩ := hcs.exists_last
    obtain ⟨ds, d, rfl, hd, hdlast, hds⟩ := hds.exists_last
    have hc := toNat_of_isDigit hc
    have hd := toNat_of_isDigit hd
    have hlast : c = d := Char.toNat_inj.mp (by omega)
    rw [ih hcs hds, hlast]

theorem padded_eq (h : Spelled width n cs) (hwidth : 0 < width) : (padded width n).toList = cs :=
  (spelled_padded hwidth h.lt).unique h

end Spelled

/-! ## 2. What a text tells -/

/-- A date and a time of day as RFC 3339 writes them in UTC, by the digits of the six numbers. -/
def stamp (ys ms ds hs is ss : List Char) : String :=
  String.ofList (ys ++ '-' :: ms ++ '-' :: ds ++ 'T' :: hs ++ ':' :: is ++ ':' :: ss ++ ['Z'])

/-- **The moment that a text tells**, in seconds since the beginning of 1970.  The date that falls
on its day and the time of day tell it, and if the year does not fit four digits, the number of
seconds does. -/
inductive Tells (seconds : ℤ) : String → Prop
  | dated {d : Date} {n : ℤ} {year hour minute second : ℕ} {ys ms ds hs is ss : List Char}
      (hdate : FallsOn d n) (hyear : d.year = year)
      (hhour : hour < 24) (hminute : minute < 60) (hsecond : second < 60)
      (hmoment : seconds = n * 86400 + (hour * 3600 + minute * 60 + second : ℕ))
      (hys : Spelled 4 year ys) (hms : Spelled 2 d.month ms) (hds : Spelled 2 d.day ds)
      (hhs : Spelled 2 hour hs) (his : Spelled 2 minute is) (hss : Spelled 2 second ss) :
      Tells seconds (stamp ys ms ds hs is ss)
  | counted {d : Date} {n : ℤ} (hdate : FallsOn d n)
      (hmoment : n * 86400 ≤ seconds ∧ seconds < (n + 1) * 86400)
      (hfar : d.year < 0 ∨ 9999 < d.year) : Tells seconds (toString seconds)

/-! ## 3. What is written -/

theorem text_of_near {seconds : ℤ} (h : 0 ≤ (dateOfDay (seconds / 86400)).year ∧
    (dateOfDay (seconds / 86400)).year ≤ 9999) :
    let d := dateOfDay (seconds / 86400)
    let k := (seconds % 86400).toNat
    text seconds = stamp (padded 4 d.year.toNat).toList (padded 2 d.month).toList
      (padded 2 d.day).toList (padded 2 (k / 3600)).toList (padded 2 (k / 60 % 60)).toList
      (padded 2 (k % 60)).toList := by
  intro d k
  rw [text, if_pos h, ← String.toList_inj]
  simp [stamp, timeText, d, k]

/-- **What is written for a moment tells it.** -/
theorem tells_text (seconds : ℤ) : Tells seconds (text seconds) := by
  have hdate : FallsOn (dateOfDay (seconds / 86400)) (seconds / 86400) := fallsOn_iff.mpr rfl
  by_cases hnear : 0 ≤ (dateOfDay (seconds / 86400)).year ∧
      (dateOfDay (seconds / 86400)).year ≤ 9999
  · rw [text_of_near hnear]
    obtain ⟨hpos, hle, hday, hlength⟩ := proper_dateOfDay (seconds / 86400)
    have hshort := hlength.trans (monthLength_bounds _ _).2
    exact .dated hdate (Int.toNat_of_nonneg hnear.1).symm (by omega)
      (Nat.mod_lt _ (by decide)) (Nat.mod_lt _ (by decide)) (by omega)
      (spelled_padded (by decide) (by omega)) (spelled_padded (by decide) (by omega))
      (spelled_padded (by decide) (by omega)) (spelled_padded (by decide) (by omega))
      (spelled_padded (by decide) (by omega)) (spelled_padded (by decide) (by omega))
  · rw [text, if_neg hnear]
    exact .counted hdate (by omega) (by omega)

/-- **Nothing else tells it.** -/
theorem Tells.eq_text {seconds : ℤ} {t : String} (h : Tells seconds t) : t = text seconds := by
  cases h with
  | @dated d n year hour minute second ys ms ds hs is ss hdate hyear hhour hminute hsecond hmoment
      hys hms hds hhs his hss =>
    obtain rfl := fallsOn_iff.mp hdate
    have hday : seconds / 86400 = n := by omega
    have hofHour : (seconds % 86400).toNat / 3600 = hour := by omega
    have hofMinute : (seconds % 86400).toNat / 60 % 60 = minute := by omega
    have hofSecond : (seconds % 86400).toNat % 60 = second := by omega
    have hlt : year < 10 ^ 4 := hys.lt
    have hnear : 0 ≤ (dateOfDay (seconds / 86400)).year ∧
        (dateOfDay (seconds / 86400)).year ≤ 9999 := by
      rw [hday]
      omega
    rw [text_of_near hnear, hday, hyear, Int.toNat_natCast, hofHour, hofMinute, hofSecond,
      hys.padded_eq (by decide), hms.padded_eq (by decide), hds.padded_eq (by decide),
      hhs.padded_eq (by decide), his.padded_eq (by decide), hss.padded_eq (by decide)]
  | @counted d n hdate hmoment hfar =>
    obtain rfl := fallsOn_iff.mp hdate
    have hday : seconds / 86400 = n := by omega
    rw [text, if_neg (by rw [hday]; omega)]

/-! ## 4. Reading -/

/-- The number that digits stand for. -/
def digits? (cs : List Char) : Option ℕ :=
  if cs.all Char.isDigit then some (Nat.ofDigitChars 10 cs 0) else none

/-- The moment of a date and a time of day, if there are such a date and such a time. -/
def moment? (d : Date) (hour minute second : ℕ) : Option ℤ :=
  if d.Proper ∧ hour < 24 ∧ minute < 60 ∧ second < 60 then
    some (dayOfDate d * 86400 + (hour * 3600 + minute * 60 + second : ℕ))
  else none

/-- The moment of a date and a time of day as RFC 3339 writes them in UTC. -/
def stamped? : List Char → Option ℤ
  | [y₁, y₂, y₃, y₄, '-', m₁, m₂, '-', d₁, d₂, 'T', h₁, h₂, ':', i₁, i₂, ':', s₁, s₂, 'Z'] => do
    let year ← digits? [y₁, y₂, y₃, y₄]
    let month ← digits? [m₁, m₂]
    let day ← digits? [d₁, d₂]
    let hour ← digits? [h₁, h₂]
    let minute ← digits? [i₁, i₂]
    let second ← digits? [s₁, s₂]
    moment? ⟨year, month, day⟩ hour minute second
  | _ => none

/-- The moment that is read from a text, by date and time of day or in seconds. -/
def read? (t : String) : Option ℤ := stamped? t.toList <|> t.toInt?

theorem Spelled.digits?_eq {width n : ℕ} {cs : List Char} (h : Spelled width n cs) :
    digits? cs = some n := by
  rw [digits?, if_pos (List.all_eq_true.mpr h.digits), h.value]

theorem stamped?_stamp {year month day hour minute second : ℕ} {ys ms ds hs is ss : List Char}
    (hys : Spelled 4 year ys) (hms : Spelled 2 month ms) (hds : Spelled 2 day ds)
    (hhs : Spelled 2 hour hs) (his : Spelled 2 minute is) (hss : Spelled 2 second ss) :
    stamped? (stamp ys ms ds hs is ss).toList = moment? ⟨year, month, day⟩ hour minute second := by
  have hread : (do
      let year ← digits? ys
      let month ← digits? ms
      let day ← digits? ds
      let hour ← digits? hs
      let minute ← digits? is
      let second ← digits? ss
      moment? ⟨year, month, day⟩ hour minute second) =
      moment? ⟨year, month, day⟩ hour minute second := by
    rw [hys.digits?_eq, hms.digits?_eq, hds.digits?_eq, hhs.digits?_eq, his.digits?_eq,
      hss.digits?_eq]
    rfl
  -- With a list of so many characters for each number, the marks are where they are looked for.
  obtain ⟨y₁, y₂, y₃, y₄, rfl⟩ := List.length_eq_four.mp hys.length
  obtain ⟨m₁, m₂, rfl⟩ := List.length_eq_two.mp hms.length
  obtain ⟨d₁, d₂, rfl⟩ := List.length_eq_two.mp hds.length
  obtain ⟨h₁, h₂, rfl⟩ := List.length_eq_two.mp hhs.length
  obtain ⟨i₁, i₂, rfl⟩ := List.length_eq_two.mp his.length
  obtain ⟨s₁, s₂, rfl⟩ := List.length_eq_two.mp hss.length
  rw [← hread, stamp, String.toList_ofList]
  rfl

theorem mem_of_stamped?_eq_some {cs : List Char} {seconds : ℤ} (h : stamped? cs = some seconds) :
    'T' ∈ cs := by
  unfold stamped? at h
  split at h
  · simp
  · exact absurd h (by simp)

theorem not_mem_toString (n : ℤ) : 'T' ∉ (toString n).toList := by
  have hdigits (m : ℕ) : 'T' ∉ m.repr.toList := by
    rw [Nat.toList_repr]
    exact fun h => absurd (Nat.isDigit_of_mem_toDigits (by decide) (by decide) h) (by decide)
  rw [Int.toString_eq_repr]
  cases n with
  | ofNat m => exact hdigits m
  | negSucc m =>
    rw [Int.repr, String.toList_append, List.mem_append, not_or]
    exact ⟨by decide, hdigits _⟩

/-- **A text is read as the moment that it tells.** -/
theorem Tells.read?_eq {seconds : ℤ} {t : String} (h : Tells seconds t) :
    read? t = some seconds := by
  cases h with
  | @dated d n year hour minute second ys ms ds hs is ss hdate hyear hhour hminute hsecond hmoment
      hys hms hds hhs his hss =>
    obtain rfl := fallsOn_iff.mp hdate
    rw [read?, stamped?_stamp hys hms hds hhs his hss, moment?, ← hyear,
      if_pos ⟨proper_dateOfDay n, hhour, hminute, hsecond⟩, dayOfDate_dateOfDay, hmoment]
    rfl
  | counted =>
    have hnone : stamped? (toString seconds).toList = none := by
      cases hsome : stamped? (toString seconds).toList with
      | none => rfl
      | some s => exact absurd (mem_of_stamped?_eq_some hsome) (not_mem_toString seconds)
    rw [read?, hnone, Int.toString_eq_repr, Int.toInt?_repr]
    rfl

/-- **A printed time tells its moment.**  It is the one text by the rule: date and time of day in
UTC if the year has four digits, and else the number of seconds.  The moment is read back from it,
so no other moment is printed alike. -/
theorem text_tells_moment (seconds : ℤ) :
    (∀ t, Tells seconds t ↔ t = text seconds) ∧ read? (text seconds) = some seconds ∧
      ∀ other, text other = text seconds ↔ other = seconds := by
  have hread (moment : ℤ) : read? (text moment) = some moment := (tells_text moment).read?_eq
  refine ⟨fun t => ⟨Tells.eq_text, ?_⟩, hread seconds, fun other => ⟨fun h => ?_, ?_⟩⟩
  · rintro rfl
    exact tells_text seconds
  · have hother := hread other
    rw [h, hread seconds] at hother
    exact (Option.some.inj hother).symm
  · rintro rfl
    rfl

/-- The first and the last second with a date, and their neighbours without one. -/
example : text (-62167219201) = "-62167219201" ∧ text (-62167219200) = "0000-01-01T00:00:00Z" ∧
    text 253402300799 = "9999-12-31T23:59:59Z" ∧ text 253402300800 = "253402300800" := by
  decide +kernel

end Calendar
end TokenTrust

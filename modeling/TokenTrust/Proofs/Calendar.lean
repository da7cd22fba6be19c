/-
# Days and dates

The rules of the calendar are few: how many days a month has, which years have a leap day, and
which date comes after which.  Once the day of one date is known, they say on which day any other
date falls, before as well as after it (`FallsOn`).  The date of a day is not found by going from
date to date, however, but computed, and it is the same date (`fallsOn_iff`).

The computation counts years from March, in eras of 400 years (`Count`).  So counted, a month begins
on the same day of every year, and a year has begun exactly if its first day has come
(`le_yearOfEra_iff`).  Since every day and every date can be counted, days and dates are computed
back and forth without a loss (`dayOfDate_dateOfDay`, `dateOfDay_dayOfDate`), and a day later the
next date is due (`dayOfDate_next`).
-/
import Mathlib
import TokenTrust.Time.Calendar

namespace TokenTrust
namespace Calendar

/-! ## 1. The rules -/

/-- A year has a leap day if its number is a multiple of four, but the last year of a century only
if its number is a multiple of 400. -/
def IsLeap (year : ℤ) : Prop := year % 4 = 0 ∧ (year % 100 ≠ 0 ∨ year % 400 = 0)

instance (year : ℤ) : Decidable (IsLeap year) := inferInstanceAs (Decidable (_ ∧ _))

/-- The days of a month. -/
def monthLength (year : ℤ) : ℕ → ℕ
  | 2 => if IsLeap year then 29 else 28
  | 4 | 6 | 9 | 11 => 30
  | _ => 31

theorem monthLength_bounds (year : ℤ) (month : ℕ) :
    1 ≤ monthLength year month ∧ monthLength year month ≤ 31 := by
  unfold monthLength
  repeat' split
  all_goals decide

namespace Date

variable {d : Date}

/-- A date that the calendar has. -/
structure Proper (d : Date) : Prop where
  month_pos : 1 ≤ d.month
  month_le : d.month ≤ 12
  day_pos : 1 ≤ d.day
  day_le : d.day ≤ monthLength d.year d.month

instance (d : Date) : Decidable d.Proper :=
  decidable_of_iff (1 ≤ d.month ∧ d.month ≤ 12 ∧ 1 ≤ d.day ∧ d.day ≤ monthLength d.year d.month)
    ⟨fun h => ⟨h.1, h.2.1, h.2.2.1, h.2.2.2⟩,
      fun h => ⟨h.month_pos, h.month_le, h.day_pos, h.day_le⟩⟩

/-- The date a day later. -/
def next (d : Date) : Date :=
  if d.day < monthLength d.year d.month then { d with day := d.day + 1 }
  else if d.month < 12 then ⟨d.year, d.month + 1, 1⟩
  else ⟨d.year + 1, 1, 1⟩

theorem Proper.next (h : d.Proper) : d.next.Proper := by
  obtain ⟨hpos, hle, hday, -⟩ := h
  unfold Date.next
  split
  · next hlt => exact ⟨hpos, hle, Nat.le_add_left 1 _, hlt⟩
  · split
    · next hmonth =>
      exact ⟨Nat.le_add_left 1 _, hmonth, le_rfl, (monthLength_bounds _ _).1⟩
    · exact ⟨le_rfl, Nat.one_le_ofNat, le_rfl, (monthLength_bounds _ _).1⟩

end Date

/-- **The day on which a date falls**, counted from the first of January 1970, by the rules. -/
inductive FallsOn : Date → ℤ → Prop
  | epoch : FallsOn ⟨1970, 1, 1⟩ 0
  | later {d : Date} {n : ℤ} (h : FallsOn d n) : FallsOn d.next (n + 1)
  | earlier {d : Date} {n : ℤ} (hd : d.Proper) (h : FallsOn d.next (n + 1)) : FallsOn d n

/-! ## 2. Years from March -/

/-- How many days of an era up to a day are no leap days. -/
def plainDays (day : ℕ) : ℕ := day - day / 1460 + day / 36524 - day / 146096

theorem plainDays_mono : Monotone plainDays := by
  refine monotone_nat_of_le_succ fun day => ?_
  unfold plainDays
  omega

/-- On the first day of a year, and not sooner, all years before it have had their 365 days. -/
theorem plainDays_yearStart {year : ℕ} (h : year < 400) :
    365 * year ≤ plainDays (yearStart year) ∧
      (year ≠ 0 → plainDays (yearStart year - 1) < 365 * year) := by
  have hall : ∀ y < 400, 365 * y ≤ plainDays (yearStart y) ∧
      (y ≠ 0 → plainDays (yearStart y - 1) < 365 * y) := by decide +kernel
  exact hall year h

/-- **A year has begun exactly if its first day has come.** -/
theorem le_yearOfEra_iff {year day : ℕ} (h : year < 400) :
    year ≤ yearOfEra day ↔ yearStart year ≤ day := by
  obtain ⟨hfirst, hbefore⟩ := plainDays_yearStart h
  have hyear : year ≤ yearOfEra day ↔ 365 * year ≤ plainDays day := by
    rw [yearOfEra, Nat.le_div_iff_mul_le (by decide), mul_comm, plainDays]
  rw [hyear]
  constructor
  · intro hle
    by_contra hlt
    have hmono : plainDays day ≤ plainDays (yearStart year - 1) := plainDays_mono (by omega)
    have hzero : year ≠ 0 := by
      rintro rfl
      exact hlt (Nat.zero_le day)
    exact absurd (hbefore hzero) (by omega)
  · intro hle
    exact hfirst.trans (plainDays_mono hle)

theorem yearOfEra_lt {day : ℕ} (h : day < eraDays) : yearOfEra day < 400 := by
  have hplain : plainDays day ≤ plainDays (eraDays - 1) := plainDays_mono (by omega)
  have hlast : plainDays (eraDays - 1) < 365 * 400 := by decide
  exact Nat.div_lt_of_lt_mul (hplain.trans_lt hlast)

/-- The days of a year from March on that ends in the given one. -/
def yearLength (year : ℤ) : ℕ := if IsLeap year then 366 else 365

theorem yearLength_bounds (year : ℤ) : 365 ≤ yearLength year ∧ yearLength year ≤ 366 := by
  unfold yearLength
  split <;> decide

theorem yearLength_eq_iff (year : ℤ) :
    yearLength year = 366 ↔ year % 4 = 0 ∧ (year % 100 ≠ 0 ∨ year % 400 = 0) := by
  rw [yearLength, ← IsLeap]
  split <;> simp [*]

theorem yearStart_add_yearLength {year : ℕ} (h : year < 400) :
    yearStart year + yearLength (year + 1) =
      if year = 399 then eraDays else yearStart (year + 1) := by
  have hlength := yearLength_bounds (year + 1)
  have hleap := yearLength_eq_iff (year + 1)
  unfold yearStart eraDays
  split <;> omega

theorem yearOfEra_eq {year k : ℕ} (h : year < 400) (hk : k < yearLength (year + 1)) :
    yearOfEra (yearStart year + k) = year := by
  have hnext := yearStart_add_yearLength h
  refine le_antisymm (Nat.le_of_lt_succ (Nat.lt_of_not_le fun (hle : year + 1 ≤ _) => ?_))
    ((le_yearOfEra_iff h).mpr (Nat.le_add_right _ _))
  split at hnext
  · have hlt : yearOfEra (yearStart year + k) < 400 := yearOfEra_lt (by omega)
    omega
  · have hbegun := (le_yearOfEra_iff (by omega)).mp hle
    omega

/-- Every day of an era lies in one of its years. -/
theorem exists_year {day : ℕ} (h : day < eraDays) :
    ∃ year < 400, ∃ k < yearLength ((year : ℕ) + 1), yearStart year + k = day := by
  have hyear : yearOfEra day < 400 := yearOfEra_lt h
  have hstart : yearStart (yearOfEra day) ≤ day := (le_yearOfEra_iff hyear).mp le_rfl
  have hnext := yearStart_add_yearLength hyear
  refine ⟨yearOfEra day, hyear, day - yearStart (yearOfEra day), ?_, Nat.add_sub_cancel' hstart⟩
  by_contra hlt
  split at hnext
  · omega
  · have hbegun : yearOfEra day + 1 ≤ yearOfEra day := (le_yearOfEra_iff (by omega)).mpr (by omega)
    omega

/-- The month of a day of the year. -/
theorem month_eq_iff {month k : ℕ} (hk : k < 366) : (5 * k + 2) / 153 = month ↔
    month < 12 ∧ monthStart month ≤ k ∧ (month < 11 → k < monthStart (month + 1)) := by
  unfold monthStart
  omega

/-! ## 3. Days and dates as they are counted -/

/-- A day by era, year, month and day of the month.  Each of them is counted from zero, and the year
from March. -/
structure Count where
  era : ℤ
  year : ℕ
  month : ℕ
  day : ℕ

namespace Count

variable {c : Count}

/-- The date, which has its year from January on. -/
def date (c : Count) : Date where
  year := c.year + c.era * 400 + if c.month < 10 then 0 else 1
  month := if c.month < 10 then c.month + 3 else c.month - 9
  day := c.day + 1

theorem date_mk (era : ℤ) (year month day : ℕ) : date ⟨era, year, month, day⟩ =
    ⟨year + era * 400 + if month < 10 then 0 else 1, if month < 10 then month + 3 else month - 9,
      day + 1⟩ := rfl

/-- The day of the year. -/
def dayOfYear (c : Count) : ℕ := monthStart c.month + c.day

/-- The day of the era. -/
def dayOfEra (c : Count) : ℕ := yearStart c.year + c.dayOfYear

/-- The day, counted from the first of January 1970. -/
def number (c : Count) : ℤ := c.era * eraDays + c.dayOfEra - epochDays

/-- A count that stays within the era, the year and the month. -/
structure Proper (c : Count) : Prop where
  year_lt : c.year < 400
  month_lt : c.month < 12
  day_lt : c.day < monthLength c.date.year c.date.month

theorem monthLength_date (h : c.month < 12) : monthLength c.date.year c.date.month =
    if c.month = 11 then yearLength (c.year + 1) - monthStart 11
    else monthStart (c.month + 1) - monthStart c.month := by
  obtain ⟨era, year, month, day⟩ := c
  have hleap : IsLeap (year + era * 400 + 1) ↔ IsLeap (year + 1) := by
    unfold IsLeap
    omega
  dsimp only at h
  interval_cases month <;> simp [date, monthLength, monthStart, yearLength, hleap]
  split <;> rfl

/-- **A day lies within its month** exactly if it lies within its year and comes before the next
month. -/
theorem day_lt_iff (h : c.month < 12) : c.day < monthLength c.date.year c.date.month ↔
    c.dayOfYear < yearLength (c.year + 1) ∧
      (c.month < 11 → c.dayOfYear < monthStart (c.month + 1)) := by
  have hyear := (yearLength_bounds (c.year + 1)).1
  rw [monthLength_date h]
  unfold dayOfYear monthStart
  split <;> omega

theorem Proper.dayOfYear_lt (h : c.Proper) : c.dayOfYear < yearLength (c.year + 1) :=
  ((day_lt_iff h.month_lt).mp h.day_lt).1

theorem Proper.dayOfEra_lt (h : c.Proper) : c.dayOfEra < eraDays := by
  have hyear := yearStart_add_yearLength h.year_lt
  have hday := h.dayOfYear_lt
  have hlt := h.year_lt
  unfold dayOfEra
  split at hyear
  · omega
  · have hstart : yearStart (c.year + 1) ≤ eraDays := by
      unfold yearStart eraDays
      omega
    omega

theorem Proper.date (h : c.Proper) : c.date.Proper where
  month_pos := by
    simp only [Count.date]
    split <;> omega
  month_le := by
    have := h.month_lt
    simp only [Count.date]
    split <;> omega
  day_pos := Nat.le_add_left 1 c.day
  day_le := h.day_lt

/-- The date that is computed for a day is the one of its count. -/
theorem dateOfDay_number (h : c.Proper) : dateOfDay c.number = c.date := by
  have hera : (c.number + epochDays) / (eraDays : ℤ) = c.era := by
    have := h.dayOfEra_lt
    unfold number eraDays at *
    omega
  have hday : ((c.number + epochDays) % (eraDays : ℤ)).toNat = c.dayOfEra := by
    have := h.dayOfEra_lt
    unfold number eraDays at *
    omega
  have hyear : yearOfEra c.dayOfEra = c.year := yearOfEra_eq h.year_lt h.dayOfYear_lt
  have hofYear : c.dayOfEra - yearStart c.year = c.dayOfYear := Nat.add_sub_cancel_left _ _
  have hmonth : (5 * c.dayOfYear + 2) / 153 = c.month :=
    (month_eq_iff (h.dayOfYear_lt.trans_le (yearLength_bounds _).2)).mpr
      ⟨h.month_lt, Nat.le_add_right _ _, ((day_lt_iff h.month_lt).mp h.day_lt).2⟩
  have hofMonth : c.dayOfYear - monthStart c.month = c.day := Nat.add_sub_cancel_left _ _
  simp only [dateOfDay, hera, hday, hyear, hofYear, hmonth, hofMonth, date]

/-- The day that is computed for a date is the one of its count. -/
theorem dayOfDate_date (h : c.Proper) : dayOfDate c.date = c.number := by
  obtain ⟨hyear, hmonth, -⟩ := h
  have hshift : c.date.year - (if c.date.month ≤ 2 then 1 else 0) = c.year + c.era * 400 := by
    simp only [date]
    split <;> split <;> omega
  have hofYear : (if c.date.month ≤ 2 then c.date.month + 9 else c.date.month - 3) = c.month := by
    simp only [date]
    split <;> split <;> omega
  have hera : ((c.year : ℤ) + c.era * 400) / 400 = c.era := by omega
  have hofEra : (((c.year : ℤ) + c.era * 400) % 400).toNat = c.year := by omega
  simp only [dayOfDate, hshift, hofYear, hera, hofEra, number, dayOfEra, dayOfYear]
  rw [show c.date.day = c.day + 1 from rfl, Nat.add_sub_cancel, Nat.add_assoc]

/-- **Every day can be counted.** -/
theorem exists_number (n : ℤ) : ∃ c : Count, c.Proper ∧ c.number = n := by
  have hera : ((n + epochDays) % (eraDays : ℤ)).toNat < eraDays := by
    unfold eraDays
    omega
  obtain ⟨year, hyear, k, hk, hday⟩ := exists_year hera
  obtain ⟨hmonth, hstart, hnext⟩ :=
    (month_eq_iff (hk.trans_le (yearLength_bounds _).2)).mp rfl
  refine ⟨⟨(n + epochDays) / (eraDays : ℤ), year, (5 * k + 2) / 153,
    k - monthStart ((5 * k + 2) / 153)⟩, ⟨hyear, hmonth, (day_lt_iff hmonth).mpr ?_⟩, ?_⟩
  · rw [dayOfYear, Nat.add_sub_cancel' hstart]
    exact ⟨hk, hnext⟩
  · rw [number, dayOfEra, dayOfYear, Nat.add_sub_cancel' hstart, hday]
    dsimp only
    unfold eraDays
    omega

/-- **Every date can be counted.** -/
theorem exists_date {d : Date} (h : d.Proper) : ∃ c : Count, c.Proper ∧ c.date = d := by
  obtain ⟨year, month, day⟩ := d
  obtain ⟨hpos, hle, hday, hlength⟩ := h
  dsimp only at hpos hle hday hlength
  obtain ⟨c, hmonth, hyear, hdate⟩ : ∃ c : Count, c.month < 12 ∧ c.year < 400 ∧
      c.date = ⟨year, month, day⟩ := by
    -- January and February end the year that began in March of the year before.
    by_cases hearly : month ≤ 2
    · refine ⟨⟨(year - 1) / 400, ((year - 1) % 400).toNat, month + 9, day - 1⟩,
        show month + 9 < 12 by omega, show ((year - 1) % 400).toNat < 400 by omega, ?_⟩
      rw [date_mk, if_neg (by omega), if_neg (by omega), Date.mk.injEq]
      omega
    · refine ⟨⟨year / 400, (year % 400).toNat, month - 3, day - 1⟩,
        show month - 3 < 12 by omega, show (year % 400).toNat < 400 by omega, ?_⟩
      rw [date_mk, if_pos (by omega), if_pos (by omega), Date.mk.injEq]
      omega
  have hofMonth : c.day + 1 = day := congrArg Date.day hdate
  refine ⟨c, ⟨hyear, hmonth, ?_⟩, hdate⟩
  rw [hdate]
  exact Nat.lt_of_lt_of_le (by omega) hlength

end Count

/-! ## 4. Back and forth -/

theorem proper_dateOfDay (n : ℤ) : (dateOfDay n).Proper := by
  obtain ⟨c, hc, rfl⟩ := Count.exists_number n
  rw [Count.dateOfDay_number hc]
  exact hc.date

theorem dayOfDate_dateOfDay (n : ℤ) : dayOfDate (dateOfDay n) = n := by
  obtain ⟨c, hc, rfl⟩ := Count.exists_number n
  rw [Count.dateOfDay_number hc, Count.dayOfDate_date hc]

theorem dateOfDay_dayOfDate {d : Date} (h : d.Proper) : dateOfDay (dayOfDate d) = d := by
  obtain ⟨c, hc, rfl⟩ := Count.exists_date h
  rw [Count.dayOfDate_date hc, Count.dateOfDay_number hc]

/-! ## 5. From date to date -/

/-- The first of March of a year, counted from that of the year zero. -/
def marchFirst (year : ℤ) : ℤ := year / 400 * eraDays + yearStart (year % 400).toNat

theorem marchFirst_eq (year : ℤ) : marchFirst year = marchFirst (year - 1) + yearLength year := by
  have hlength := yearLength_bounds year
  have hleap := yearLength_eq_iff year
  unfold marchFirst yearStart eraDays
  omega

theorem dayOfDate_eq (d : Date) : dayOfDate d =
    marchFirst (d.year - if d.month ≤ 2 then 1 else 0) +
      (monthStart (if d.month ≤ 2 then d.month + 9 else d.month - 3) + (d.day - 1) : ℕ) -
      epochDays := by
  unfold dayOfDate marchFirst
  dsimp only
  omega

/-- **A day later the next date is due.** -/
theorem dayOfDate_next {d : Date} (h : d.Proper) : dayOfDate d.next = dayOfDate d + 1 := by
  obtain ⟨year, month, day⟩ := d
  obtain ⟨hpos, hle, hday, hlength⟩ := h
  dsimp only at hpos hle hday hlength
  rw [Date.next]
  by_cases hlast : day < monthLength year month
  · rw [if_pos hlast, dayOfDate_eq, dayOfDate_eq]
    dsimp only
    omega
  · obtain rfl : day = monthLength year month := by omega
    rw [if_neg hlast, dayOfDate_eq, dayOfDate_eq]
    -- From February to March the year from March changes, and there a leap day counts.
    have hmarch := marchFirst_eq year
    by_cases hleap : IsLeap year
    all_goals
      simp only [yearLength, hleap, if_true, if_false] at hmarch
      interval_cases month <;> simp [monthLength, monthStart, hleap] <;> omega

theorem dateOfDay_succ (n : ℤ) : dateOfDay (n + 1) = (dateOfDay n).next := by
  have hday : dayOfDate (dateOfDay n).next = n + 1 := by
    rw [dayOfDate_next (proper_dateOfDay n), dayOfDate_dateOfDay]
  rw [← hday, dateOfDay_dayOfDate (proper_dateOfDay n).next]

/-- **The date that is computed for a day is the one that falls on it.** -/
theorem fallsOn_iff {d : Date} {n : ℤ} : FallsOn d n ↔ dateOfDay n = d := by
  constructor
  · intro h
    induction h with
    | epoch => decide
    | later h ih => rw [dateOfDay_succ, ih]
    | earlier hd h ih =>
      have hday := congrArg dayOfDate ih
      rw [dayOfDate_dateOfDay, dayOfDate_next hd, add_left_inj] at hday
      rw [hday, dateOfDay_dayOfDate hd]
  · rintro rfl
    induction n using Int.induction_on with
    | zero => exact .epoch
    | succ n ih =>
      rw [dateOfDay_succ]
      exact .later ih
    | pred n ih =>
      refine .earlier (proper_dateOfDay _) ?_
      rw [← dateOfDay_succ, sub_add_cancel]
      exact ih

end Calendar
end TokenTrust

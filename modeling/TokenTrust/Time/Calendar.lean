/-
# Dates

Seconds since the beginning of 1970 and the date and time of day they stand for, in UTC and in
the Gregorian calendar extended in both directions.

Years are counted from the first of March, so that a leap day is the last day of its year, and
grouped into eras of 400 years, which all have the same number of days.  `text` writes a moment
as RFC 3339 does, which has four digits for a year; outside the years that fit, it writes the
number of seconds.
-/

namespace TokenTrust
namespace Calendar

/-! ## 1. Days -/

structure Date where
  year : Int
  month : Nat
  day : Nat
  deriving DecidableEq, Repr

/-- Days in 400 years. -/
def eraDays : Nat := 146097

/-- Days from the first of March of the year zero to the first of January 1970. -/
def epochDays : Nat := 719468

/-- The year of an era in which a day of the era lies. -/
def yearOfEra (day : Nat) : Nat :=
  (day - day / 1460 + day / 36524 - day / 146096) / 365

/-- The first day of a year of an era. -/
def yearStart (year : Nat) : Nat :=
  365 * year + year / 4 - year / 100

/-- The first day of a month, counted from March. -/
def monthStart (month : Nat) : Nat :=
  (153 * month + 2) / 5

/-- The date of a day, counted from the first of January 1970. -/
def dateOfDay (day : Int) : Date :=
  let shifted := day + epochDays
  let era := shifted / eraDays
  let dayOfEra := (shifted % eraDays).toNat
  let year := yearOfEra dayOfEra
  let dayOfYear := dayOfEra - yearStart year
  let month := (5 * dayOfYear + 2) / 153
  { year := year + era * 400 + if month < 10 then 0 else 1
    month := if month < 10 then month + 3 else month - 9
    day := dayOfYear - monthStart month + 1 }

/-- The day of a date, counted from the first of January 1970. -/
def dayOfDate (d : Date) : Int :=
  let year := d.year - if d.month ≤ 2 then 1 else 0
  let month := if d.month ≤ 2 then d.month + 9 else d.month - 3
  let yearInEra := (year % 400).toNat
  let dayOfEra := yearStart yearInEra + monthStart month + (d.day - 1)
  year / 400 * eraDays + dayOfEra - epochDays

/-! ## 2. Text -/

/-- A number with zeros in front of it, up to a width. -/
def padded (width n : Nat) : String :=
  let digits := Nat.toDigits 10 n
  String.ofList (List.replicate (width - digits.length) '0' ++ digits)

/-- A time of day, in seconds. -/
def timeText (second : Nat) : String :=
  padded 2 (second / 3600) ++ ":" ++ padded 2 (second / 60 % 60) ++ ":" ++ padded 2 (second % 60)

/-- A moment in words, given in seconds since the beginning of 1970. -/
def text (seconds : Int) : String :=
  let date := dateOfDay (seconds / 86400)
  if 0 ≤ date.year ∧ date.year ≤ 9999 then
    padded 4 date.year.toNat ++ "-" ++ padded 2 date.month ++ "-" ++ padded 2 date.day ++ "T" ++
      timeText (seconds % 86400).toNat ++ "Z"
  else toString seconds

end Calendar
end TokenTrust

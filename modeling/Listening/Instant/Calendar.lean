/-!
# The calendar

Dates of the Gregorian calendar, extended to all years, beside a count of
days from 1970-01-01. The count follows from counting years from March: then
the leap day is the last of its year, and a month begins
`(153 * m + 2) / 5` days after its year does.
-/

namespace Listening.Calendar

/-- A date. -/
structure Date where
  /-- The year. -/
  year : Int
  /-- The month, from 1. -/
  month : Nat
  /-- The day of the month, from 1. -/
  day : Nat
  deriving DecidableEq, Repr

/-- Whether a year has a leap day. -/
def isLeap (year : Int) : Bool :=
  year % 4 = 0 ∧ (year % 100 ≠ 0 ∨ year % 400 = 0)

/-- The count of days in a month. -/
def monthLength (year : Int) (month : Nat) : Nat :=
  if month = 2 then if isLeap year then 29 else 28
  else if month = 4 ∨ month = 6 ∨ month = 9 ∨ month = 11 then 30
  else 31

/-- Whether a date is one of the calendar. -/
def Date.isValid (d : Date) : Bool :=
  1 ≤ d.month && d.month ≤ 12 && 1 ≤ d.day && d.day ≤ monthLength d.year d.month

/-- The days from 1970-01-01 to a date. -/
def Date.toDays (d : Date) : Int :=
  let year := if d.month ≤ 2 then d.year - 1 else d.year
  let era := year / 400
  let yearOfEra := year % 400
  let month : Int := ((d.month + 9) % 12 : Nat)
  let dayOfYear := (153 * month + 2) / 5 + d.day - 1
  let dayOfEra := yearOfEra * 365 + yearOfEra / 4 - yearOfEra / 100 + dayOfYear
  era * 146097 + dayOfEra - 719468

/-- The date a count of days after 1970-01-01. -/
def Date.ofDays (days : Int) : Date :=
  let shifted := days + 719468
  let era := shifted / 146097
  let dayOfEra := shifted % 146097
  let yearOfEra := (dayOfEra - dayOfEra / 1460 + dayOfEra / 36524 - dayOfEra / 146096) / 365
  let dayOfYear := dayOfEra - (365 * yearOfEra + yearOfEra / 4 - yearOfEra / 100)
  let month := (5 * dayOfYear + 2) / 153
  let day := dayOfYear - (153 * month + 2) / 5 + 1
  let month := if month < 10 then month + 3 else month - 9
  let year := yearOfEra + era * 400
  ⟨if month ≤ 2 then year + 1 else year, month.toNat, day.toNat⟩

/-- The day of the week of a count of days: 0 is Monday. -/
def weekday (days : Int) : Int := (days + 3) % 7

/-- The count of days of the Monday that begins week 1 of a year: the week
that holds the first Thursday. -/
def firstMonday (year : Int) : Int :=
  let newYear := Date.toDays ⟨year, 1, 1⟩
  let day := weekday newYear
  if day ≤ 3 then newYear - day else newYear - day + 7

/-- Whether a year has a week 53: it begins on a Thursday, or on a Wednesday
and is a leap year. -/
def isLong (year : Int) : Bool :=
  let day := weekday (Date.toDays ⟨year, 1, 1⟩)
  day = 3 ∨ (day = 2 ∧ isLeap year)

/-- The count of days of a day of a week, weeks and days from 1. -/
def ofWeek? (year : Int) (week day : Nat) : Option Int :=
  if week = 0 ∨ 53 < week ∨ (week = 53 ∧ !isLong year) ∨ day = 0 ∨ 7 < day then none
  else some (firstMonday year + ((week : Int) - 1) * 7 + ((day : Int) - 1))

end Listening.Calendar

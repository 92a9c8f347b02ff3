/-! Days counted from 1970-01-01 and the dates they fall on, in the Gregorian calendar. -/

namespace StackPanel

/-- A calendar date; years before the year one are zero and negative. -/
structure Date where
  /-- The year. -/
  year : Int
  /-- The month, from one to twelve. -/
  month : Nat
  /-- The day of the month, from one. -/
  day : Nat
  deriving DecidableEq

namespace Date

/-- Whether a year has a twenty-ninth of February. -/
def isLeapYear (year : Int) : Bool :=
  year % 4 = 0 && (year % 100 ≠ 0 || year % 400 = 0)

/-- The number of days in a month. -/
def daysInMonth (year : Int) (month : Nat) : Nat :=
  if month = 2 then (if isLeapYear year then 29 else 28)
  else if month = 4 ∨ month = 6 ∨ month = 9 ∨ month = 11 then 30
  else 31

/-- Whether a date exists. -/
def isValid (date : Date) : Bool :=
  1 ≤ date.month && date.month ≤ 12 && 1 ≤ date.day &&
    date.day ≤ daysInMonth date.year date.month

/-- The days from 1970-01-01 to a date. Years are taken to start in March, so that the leap day
comes last. -/
def toDays (date : Date) : Int :=
  let year := if date.month ≤ 2 then date.year - 1 else date.year
  -- March is month zero.
  let month : Int := if date.month ≤ 2 then date.month + 9 else date.month - 3
  let era := year / 400
  let yearOfEra := year % 400
  let dayOfYear := (153 * month + 2) / 5 + date.day - 1
  let dayOfEra := yearOfEra * 365 + yearOfEra / 4 - yearOfEra / 100 + dayOfYear
  era * 146097 + dayOfEra - 719468

/-- The date a number of days after 1970-01-01. -/
def ofDays (days : Int) : Date :=
  let shifted := days + 719468
  let era := shifted / 146097
  let dayOfEra := shifted % 146097
  -- The leap days are taken out, so that years of equal length remain.
  let yearOfEra :=
    (dayOfEra - dayOfEra / 1460 + dayOfEra / 36524 - dayOfEra / 146096) / 365
  let dayOfYear := dayOfEra - (365 * yearOfEra + yearOfEra / 4 - yearOfEra / 100)
  let month := (5 * dayOfYear + 2) / 153
  let day := dayOfYear - (153 * month + 2) / 5 + 1
  let civilMonth := if month < 10 then month + 3 else month - 9
  let year := yearOfEra + era * 400
  { year := if civilMonth ≤ 2 then year + 1 else year
    month := civilMonth.toNat
    day := day.toNat }

end Date

end StackPanel

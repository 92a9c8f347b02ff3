import StackPanel.Decimal.Rounding
import StackPanel.Instant.Calendar

/-! Instants to the millisecond in Coordinated Universal Time, leap seconds included. -/

namespace StackPanel

/-- A moment of Coordinated Universal Time. -/
structure Instant where
  /-- Whole minutes since 1970-01-01T00:00. -/
  minute : Int
  /-- The second of the minute, sixty being a leap second. -/
  second : Nat
  /-- The millisecond of the second. -/
  millisecond : Nat
  deriving DecidableEq

namespace Instant

/-- The instant a number of milliseconds after 1970-01-01T00:00. -/
def ofUnixMilliseconds (milliseconds : Int) : Instant :=
  { minute := milliseconds / 60000
    second := (milliseconds % 60000 / 1000).toNat
    millisecond := (milliseconds % 1000).toNat }

/-- A year of four digits; years that need more, and those before zero, carry a sign. -/
def yearText (year : Int) : List Char :=
  if 0 ≤ year ∧ year ≤ 9999 then Decimal.paddedDigits 4 year.toNat
  else if year < 0 then '-' :: Decimal.paddedDigits 4 (-year).toNat
  else '+' :: Decimal.paddedDigits 4 year.toNat

/-- Date and time in one text with three places of the second, such as
`2025-01-02T03:04:05.678Z`. -/
def chars (instant : Instant) : List Char :=
  let date := Date.ofDays (instant.minute / 1440)
  let minuteOfDay := (instant.minute % 1440).toNat
  yearText date.year ++ '-' :: Decimal.paddedDigits 2 date.month ++
    '-' :: Decimal.paddedDigits 2 date.day ++
    'T' :: Decimal.paddedDigits 2 (minuteOfDay / 60) ++
    ':' :: Decimal.paddedDigits 2 (minuteOfDay % 60) ++
    ':' :: Decimal.paddedDigits 2 instant.second ++
    '.' :: Decimal.paddedDigits 3 instant.millisecond ++ ['Z']

/-- The text of an instant. -/
def text (instant : Instant) : String :=
  String.ofList instant.chars

end Instant

end StackPanel

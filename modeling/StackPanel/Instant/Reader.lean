import StackPanel.Instant.Value
import StackPanel.Text.Digits

/-! Reading date and time with an offset, as RFC 3339 writes them. -/

namespace StackPanel.Instant

/-- The number that exactly so many digits at the front stand for. -/
def readDigits? : Nat → Nat → List Char → Option (Nat × List Char)
  | 0, value, cs => some (value, cs)
  | count + 1, value, c :: rest =>
    if c.isDigit then readDigits? count (10 * value + Text.digitValue c) rest else none
  | _ + 1, _, [] => none

/-- The text after one expected character. -/
def expect? (expected : Char) : List Char → Option (List Char)
  | c :: rest => if c = expected then some rest else none
  | [] => none

/-- The text after the mark between date and time. -/
def readSeparator? : List Char → Option (List Char)
  | 'T' :: rest | 't' :: rest | ' ' :: rest => some rest
  | _ => none

/-- The milliseconds of a fraction, if there is one; further digits are cut off. -/
def readMilliseconds? : List Char → Option (Nat × List Char)
  | '.' :: rest =>
    let ds := rest.takeWhile Char.isDigit
    if ds.isEmpty then none
    else
      -- Two zeros fill up a fraction of a single digit.
      (readDigits? 3 0 (ds ++ ['0', '0'])).map fun found => (found.1, rest.dropWhile Char.isDigit)
  | cs => some (0, cs)

/-- An offset of less than a day in minutes, after its sign. -/
def readOffset? (cs : List Char) : Option (Int × List Char) := do
  let (hours, cs) ← readDigits? 2 0 cs
  let cs ← expect? ':' cs
  let (minutes, cs) ← readDigits? 2 0 cs
  if 24 ≤ hours ∨ 60 ≤ minutes then none
  else return ((60 * hours + minutes : Nat), cs)

/-- The minutes by which local time is ahead. -/
def readZone? : List Char → Option (Int × List Char)
  | 'Z' :: rest | 'z' :: rest => some (0, rest)
  | '+' :: rest => readOffset? rest
  | '-' :: rest | '−' :: rest => (readOffset? rest).map fun found => (-found.1, found.2)
  | _ => none

/-- The instant that a text stands for, if it is a complete date and time with an offset. -/
def ofChars? (cs : List Char) : Option Instant := do
  let (year, cs) ← readDigits? 4 0 cs
  let cs ← expect? '-' cs
  let (month, cs) ← readDigits? 2 0 cs
  let cs ← expect? '-' cs
  let (day, cs) ← readDigits? 2 0 cs
  let cs ← readSeparator? cs
  let (hour, cs) ← readDigits? 2 0 cs
  let cs ← expect? ':' cs
  let (minute, cs) ← readDigits? 2 0 cs
  let cs ← expect? ':' cs
  let (second, cs) ← readDigits? 2 0 cs
  let (millisecond, cs) ← readMilliseconds? cs
  let (ahead, cs) ← readZone? cs
  let date : Date := { year, month, day }
  if cs.isEmpty && date.isValid && hour < 24 && minute < 60 && second ≤ 60 then
    -- Offsets are whole minutes, so the second stays what it was.
    return { minute := date.toDays * 1440 + (60 * hour + minute : Nat) - ahead, second, millisecond }
  else none

end StackPanel.Instant

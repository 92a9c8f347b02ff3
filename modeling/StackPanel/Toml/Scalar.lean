import StackPanel.Decimal.Double
import StackPanel.Instant.Calendar
import StackPanel.Text.Digits
import StackPanel.Toml.Table

/-! TOML numbers, truth values and dates, each written as one word. -/

namespace StackPanel.Toml

open Text (decimalValue hexValue?)

/-- Digits without the underscores between them; none if an underscore has no digit at its side. -/
def cleanDigits? (isDigit : Char → Bool) : List Char → Option (List Char)
  | [] => none
  | [c] => if isDigit c then some [c] else none
  | c :: '_' :: rest =>
    if isDigit c then (cleanDigits? isDigit rest).map (c :: ·) else none
  | c :: rest => if isDigit c then (cleanDigits? isDigit rest).map (c :: ·) else none

/-- Digits of a number that does not start with a zero unless it is zero. -/
def wholeDigits? (cs : List Char) : Option (List Char) :=
  match cleanDigits? Char.isDigit cs with
  | some ('0' :: _ :: _) => none
  | found => found

/-- A whole number, if it fits into 128 bits with or without a sign. -/
def integer? (negative : Bool) (value : Nat) : Option Toml :=
  let number : Int := if negative then -(value : Int) else value
  if -Int.pow 2 127 ≤ number ∧ number < Int.pow 2 128 then some (.integer number) else none

/-- Whether a decimal is too large for a double. -/
def isTooLarge (significand : Nat) (exponent : Int) : Bool :=
  let size : Int := (Nat.toDigits 10 significand).length + exponent
  -- Away from the limit the number of digits decides, so that no huge power is computed.
  if significand = 0 || size < 300 then false
  else if 320 < size then true
  else match exponent with
    | .ofNat n => (Decimal.Double.ofRatio? false (significand * Nat.pow 10 n) 1).isNone
    | .negSucc n => (Decimal.Double.ofRatio? false significand (Nat.pow 10 (n + 1))).isNone

/-- Text before the first character of a kind, and the text after it. -/
def splitAtFirst (isMark : Char → Bool) (cs : List Char) : List Char × Option (List Char) :=
  match cs.dropWhile (!isMark ·) with
  | [] => (cs, none)
  | _ :: rest => (cs.takeWhile (!isMark ·), some rest)

/-- The exponent of a number, which may carry a sign. -/
def exponent? (cs : List Char) : Option Int :=
  match cs with
  | '-' :: rest => (cleanDigits? Char.isDigit rest).map fun ds => -(decimalValue ds : Int)
  | '+' :: rest => (cleanDigits? Char.isDigit rest).map fun ds => (decimalValue ds : Int)
  | cs => (cleanDigits? Char.isDigit cs).map fun ds => (decimalValue ds : Int)

/-- A number with a fraction or an exponent. -/
def real? (whole : List Char) (fraction exponent : Option (List Char)) : Option Toml := do
  let whole ← wholeDigits? whole
  let fraction ← match fraction with
    | some cs => cleanDigits? Char.isDigit cs
    | none => some []
  let exponent ← match exponent with
    | some cs => exponent? cs
    | none => some 0
  if isTooLarge (decimalValue (whole ++ fraction)) (exponent - fraction.length) then none
  else some .real

/-- A decimal number without its sign. -/
def decimal? (negative : Bool) (cs : List Char) : Option Toml :=
  let (mantissa, exponent) := splitAtFirst (fun c => c = 'e' || c = 'E') cs
  let (whole, fraction) := splitAtFirst (· = '.') mantissa
  if fraction.isNone && exponent.isNone then
    (wholeDigits? whole).bind fun ds => integer? negative (decimalValue ds)
  else real? whole fraction exponent

/-- A whole number in a base up to sixteen, without a sign. -/
def based? (base : Nat) (cs : List Char) : Option Toml :=
  let isDigit (c : Char) : Bool := (hexValue? c).any (· < base)
  (cleanDigits? isDigit cs).bind fun ds =>
    integer? false (ds.foldl (fun value c => base * value + (hexValue? c).getD 0) 0)

/-- A number after its sign: infinity, no number at all, or a decimal. -/
def signed? (negative : Bool) (cs : List Char) : Option Toml :=
  if cs = ['i', 'n', 'f'] || cs = ['n', 'a', 'n'] then some .real else decimal? negative cs

/-- A number; other bases have no sign. -/
def number? : List Char → Option Toml
  | '+' :: rest => signed? false rest
  | '-' :: rest => signed? true rest
  | '0' :: 'x' :: rest => based? 16 rest
  | '0' :: 'o' :: rest => based? 8 rest
  | '0' :: 'b' :: rest => based? 2 rest
  | cs => signed? false cs

/-- A number of exactly two digits. -/
def pair? : List Char → Option (Nat × List Char)
  | a :: b :: rest =>
    if a.isDigit && b.isDigit then some (decimalValue [a, b], rest) else none
  | _ => none

/-- A date at the front of a text. -/
def date? (cs : List Char) : Option (List Char) := do
  let (century, cs) ← pair? cs
  let (year, cs) ← pair? cs
  let '-' :: cs := cs | none
  let (month, cs) ← pair? cs
  let '-' :: cs := cs | none
  let (day, cs) ← pair? cs
  if Date.isValid { year := 100 * century + year, month, day } then some cs else none

/-- A time of day at the front of a text, with or without seconds. -/
def time? (cs : List Char) : Option (List Char) := do
  let (hour, cs) ← pair? cs
  let ':' :: cs := cs | none
  let (minute, cs) ← pair? cs
  if 23 < hour || 59 < minute then none
  else match cs with
    | ':' :: cs => do
      let (second, cs) ← pair? cs
      if 60 < second then none
      else match cs with
        | '.' :: rest =>
          if (rest.takeWhile Char.isDigit).isEmpty then none
          else some (rest.dropWhile Char.isDigit)
        | cs => some cs
    | cs => some cs

/-- What may follow date and time: nothing, or the distance from Coordinated Universal Time. -/
def isOffset : List Char → Bool
  | [] | ['Z'] | ['z'] => true
  | sign :: a :: b :: ':' :: c :: d :: [] =>
    (sign = '+' || sign = '-') && [a, b, c, d].all Char.isDigit &&
      60 * decimalValue [a, b] + decimalValue [c, d] ≤ 1440 && decimalValue [c, d] < 60
  | _ => false

/-- Whether a word is a date, a time, or both. -/
def isMoment (cs : List Char) : Bool :=
  match date? cs with
  | some [] => true
  | some (mark :: rest) =>
    (mark = 'T' || mark = 't' || mark = ' ') && (time? rest).any isOffset
  | none => (time? cs).any List.isEmpty

/-- The value of a word that is no text. -/
def scalar? (cs : List Char) : Option Toml :=
  if cs = ['t', 'r', 'u', 'e'] then some (.bool true)
  else if cs = ['f', 'a', 'l', 's', 'e'] then some (.bool false)
  else if isMoment cs then some .moment
  else number? cs

end StackPanel.Toml

import StackPanel.Json.Value
import StackPanel.Text.Digits

/-! JSON numbers: the grammar of a number token and the value it stands for. -/

namespace StackPanel.Json

open Decimal (Double)
open Text (decimalValue digitValue)

/-- A number token in parts: digits before and after the point, and a signed exponent. -/
structure NumberToken where
  /-- Whether a minus sign stands in front. -/
  negative : Bool
  /-- The digits before the point. -/
  whole : List Char
  /-- The digits after the point, if there is one. -/
  fraction : Option (List Char)
  /-- The sign and the digits of the exponent, if there is one. -/
  exponent : Option (Bool × List Char)

/-- Digits at the front, and what follows them. -/
def takeDigits (cs : List Char) : List Char × List Char :=
  (cs.takeWhile Char.isDigit, cs.dropWhile Char.isDigit)

/-- The whole part: a single zero, or digits that do not start with zero. -/
def readWhole? : List Char → Option (List Char × List Char)
  | '0' :: rest =>
    match rest with
    | c :: _ => if c.isDigit then none else some (['0'], rest)
    | [] => some (['0'], rest)
  | cs => if (takeDigits cs).1.isEmpty then none else some (takeDigits cs)

/-- The fraction after a whole part, which needs a digit after the point. -/
def readFraction? : List Char → Option (Option (List Char) × List Char)
  | '.' :: rest =>
    if (takeDigits rest).1.isEmpty then none
    else some (some (takeDigits rest).1, (takeDigits rest).2)
  | cs => some (none, cs)

/-- The digits of an exponent after its sign, of which there must be one. -/
def readExponentDigits? (positive : Bool) (cs : List Char) :
    Option (Option (Bool × List Char) × List Char) :=
  if (takeDigits cs).1.isEmpty then none
  else some (some (positive, (takeDigits cs).1), (takeDigits cs).2)

/-- The exponent at the end of a number. -/
def readExponent? : List Char → Option (Option (Bool × List Char) × List Char)
  | 'e' :: '+' :: rest | 'E' :: '+' :: rest => readExponentDigits? true rest
  | 'e' :: '-' :: rest | 'E' :: '-' :: rest => readExponentDigits? false rest
  | 'e' :: rest | 'E' :: rest => readExponentDigits? true rest
  | cs => some (none, cs)

/-- A number token at the front of a text. -/
def readNumberToken? (cs : List Char) : Option (NumberToken × List Char) := do
  let (negative, cs) := match cs with
    | '-' :: rest => (true, rest)
    | cs => (false, cs)
  let (whole, cs) ← readWhole? cs
  let (fraction, cs) ← readFraction? cs
  let (exponent, cs) ← readExponent? cs
  return ({ negative, whole, fraction, exponent }, cs)

/-- Takes digits into a significand of 64 bits while they fit; gives those left over. -/
def absorb (significand : Nat) : List Char → Nat × List Char
  | [] => (significand, [])
  | c :: rest =>
    let longer := 10 * significand + digitValue c
    if longer < Nat.pow 2 64 then absorb longer rest else (significand, c :: rest)

/-- An exponent no larger than 32 bits hold; none beyond. -/
def exponentValue? (positive : Bool) (ds : List Char) : Option Int :=
  let value := decimalValue ds
  if Nat.pow 2 31 ≤ value then none else some (if positive then value else -(value : Int))

/-- An exponent kept within 32 bits. -/
def clampExponent (n : Int) : Int :=
  max (-Int.pow 2 31) (min n (Int.pow 2 31 - 1))

/-- The double of a token: at most 64 bits of its digits, then one scaling by a power of ten.
None if the number is too large. -/
def NumberToken.double? (token : NumberToken) : Option Double := do
  let (whole, wholeLeft) := absorb 0 token.whole
  let (significand, fractionLeft) := absorb whole (token.fraction.getD [])
  let taken := (token.fraction.getD []).length - fractionLeft.length
  -- Digits left over before the point raise the exponent, and those taken after it lower it.
  let shift : Int := wholeLeft.length - taken
  let start ← Double.ofRatio? false significand 1
  match token.exponent with
  | none => Double.ofScaled? token.negative start shift 4
  | some (positive, ds) =>
    match exponentValue? positive ds with
    | some exponent => Double.ofScaled? token.negative start (clampExponent (shift + exponent)) 4
    | none =>
      -- Beyond all exponents there is only zero, unless the number grows.
      if significand ≠ 0 && positive then none else some (Double.zero token.negative)

/-- The value of a token: whole numbers of 64 bits stay whole, and minus zero is not whole. -/
def NumberToken.value? (token : NumberToken) : Option Json :=
  let whole := decimalValue token.whole
  if token.fraction.isSome || token.exponent.isSome then token.double?.map .real
  else if token.negative then
    if whole ≠ 0 && whole ≤ Nat.pow 2 63 then some (.integer (-(whole : Int)))
    else token.double?.map .real
  else if whole < Nat.pow 2 64 then some (.integer whole)
  else token.double?.map .real

end StackPanel.Json

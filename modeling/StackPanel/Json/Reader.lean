import StackPanel.Json.Number
import StackPanel.Text.Digits

/-! Reading JSON text. -/

namespace StackPanel.Json

/-- The four characters that may stand between tokens. -/
def isGap (c : Char) : Bool :=
  c = ' ' || c = '\n' || c = '\t' || c = '\r'

/-- Text from its first token on. -/
def skipGap (cs : List Char) : List Char :=
  cs.dropWhile isGap

/-- The character that a backslash and one more character stand for. -/
def simpleEscape? (c : Char) : Option Char :=
  if c = '"' then some '"'
  else if c = '\\' then some '\\'
  else if c = '/' then some '/'
  else if c = 'b' then some (Char.ofNat 8)
  else if c = 'f' then some (Char.ofNat 12)
  else if c = 'n' then some '\n'
  else if c = 'r' then some '\r'
  else if c = 't' then some '\t'
  else none

/-- The code point of two surrogates, the first of them high and the second low. -/
def pairCodePoint? (high low : Nat) : Option Nat :=
  if 0xD800 ≤ high && high < 0xDC00 && 0xDC00 ≤ low && low < 0xE000 then
    some (0x10000 + 0x400 * (high - 0xD800) + (low - 0xDC00))
  else none

/-- The characters of a string after its opening quote, and the text after its closing one. -/
def readText? : List Char → Option (List Char × List Char)
  | [] => none
  | '"' :: rest => some ([], rest)
  | '\\' :: 'u' :: a :: b :: c :: d :: rest =>
    match Text.hex? [a, b, c, d] with
    | none => none
    | some unit =>
      if unit < 0xD800 || 0xE000 ≤ unit then
        (readText? rest).map fun found => (Char.ofNat unit :: found.1, found.2)
      else
        -- A high surrogate is half a character and needs its low half at once.
        match rest with
        | '\\' :: 'u' :: e :: f :: g :: h :: rest =>
          match (Text.hex? [e, f, g, h]).bind (pairCodePoint? unit) with
          | some code => (readText? rest).map fun found => (Char.ofNat code :: found.1, found.2)
          | none => none
        | _ => none
  | '\\' :: c :: rest =>
    match simpleEscape? c with
    | some plain => (readText? rest).map fun found => (plain :: found.1, found.2)
    | none => none
  | c :: rest =>
    if c = '\\' || c.toNat < 0x20 then none
    else (readText? rest).map fun found => (c :: found.1, found.2)

mutual

/-- A value at the front of a text, in which this many containers may still open.
The fuel bounds the tokens read, so the length of the text is enough. -/
def readValue? (fuel depth : Nat) (cs : List Char) : Option (Json × List Char) :=
  match fuel with
  | 0 => none
  | fuel + 1 =>
    match skipGap cs with
    | 'n' :: 'u' :: 'l' :: 'l' :: rest => some (.null, rest)
    | 't' :: 'r' :: 'u' :: 'e' :: rest => some (.bool true, rest)
    | 'f' :: 'a' :: 'l' :: 's' :: 'e' :: rest => some (.bool false, rest)
    | '"' :: rest => (readText? rest).map fun found => (.text (String.ofList found.1), found.2)
    | '[' :: rest =>
      match depth with
      | 0 => none
      | depth + 1 =>
        match skipGap rest with
        | ']' :: rest => some (.array [], rest)
        | rest => (readItems? fuel depth rest).map fun found => (.array found.1, found.2)
    | '\x7b' :: rest =>
      match depth with
      | 0 => none
      | depth + 1 =>
        match skipGap rest with
        | '\x7d' :: rest => some (.object [], rest)
        | rest => (readFields? fuel depth rest).map fun found => (ofFields found.1, found.2)
    | cs =>
      match readNumberToken? cs with
      | some (token, rest) => token.value?.map fun value => (value, rest)
      | none => none

/-- The items of an array up to its closing bracket, at least one of them. -/
def readItems? (fuel depth : Nat) (cs : List Char) : Option (List Json × List Char) :=
  match fuel with
  | 0 => none
  | fuel + 1 =>
    match readValue? fuel depth cs with
    | none => none
    | some (item, rest) =>
      match skipGap rest with
      | ']' :: rest => some ([item], rest)
      | ',' :: rest => (readItems? fuel depth rest).map fun found => (item :: found.1, found.2)
      | _ => none

/-- The fields of an object up to its closing brace, at least one of them, in written order. -/
def readFields? (fuel depth : Nat) (cs : List Char) : Option (List (String × Json) × List Char) :=
  match fuel with
  | 0 => none
  | fuel + 1 =>
    match skipGap cs with
    | '"' :: rest =>
      match readText? rest with
      | none => none
      | some (key, rest) =>
        match skipGap rest with
        | ':' :: rest =>
          match readValue? fuel depth rest with
          | none => none
          | some (value, rest) =>
            match skipGap rest with
            | '\x7d' :: rest => some ([(String.ofList key, value)], rest)
            | ',' :: rest =>
              (readFields? fuel depth rest).map fun found =>
                ((String.ofList key, value) :: found.1, found.2)
            | _ => none
        | _ => none
    | _ => none

end

/-- The containers that may be open at once. -/
def maxDepth : Nat := 127

/-- The value of a text that is one JSON value and nothing else. -/
def parse? (text : String) : Option Json :=
  -- Every call in between takes a character or opens into one that does.
  match readValue? (2 * text.length + 2) maxDepth text.toList with
  | some (value, rest) => if (skipGap rest).isEmpty then some value else none
  | none => none

/-- The fields of a text that is one object and nothing else, in written order and with keys that
may repeat. -/
def parseFields? (text : String) : Option (List (String × Json)) :=
  match skipGap text.toList with
  | '\x7b' :: rest =>
    let found := match skipGap rest with
      | '\x7d' :: rest => some ([], rest)
      | rest => readFields? (2 * text.length + 2) (maxDepth - 1) rest
    found.bind fun found => if (skipGap found.2).isEmpty then some found.1 else none
  | _ => none

end StackPanel.Json

import StackPanel.Text.Digits

/-! Texts in TOML, with and without escapes, on one line or several. -/

namespace StackPanel.Toml

/-- Whether a character may stand in a text or a comment as it is. -/
def isPlain (c : Char) : Bool :=
  c = '\t' || (0x20 ≤ c.toNat && c.toNat ≠ 0x7F)

/-- The character whose code point is written in hexadecimal digits. -/
def codePoint? (ds : List Char) : Option Char :=
  (Text.hex? ds).bind fun code => if code.isValidChar then some (Char.ofNat code) else none

/-- The character of an escape of one letter. -/
def letterEscape? (c : Char) : Option Char :=
  if c = 'b' then some (Char.ofNat 8)
  else if c = 't' then some '\t'
  else if c = 'n' then some '\n'
  else if c = 'f' then some (Char.ofNat 12)
  else if c = 'r' then some '\r'
  else if c = 'e' then some (Char.ofNat 27)
  else if c = '"' then some '"'
  else if c = '\\' then some '\\'
  else none

/-- An escape after its backslash, and the text after it. -/
def escape? : List Char → Option (Char × List Char)
  | 'x' :: rest => (codePoint? (rest.take 2)).bind fun c => digitsTaken c 2 rest
  | 'u' :: rest => (codePoint? (rest.take 4)).bind fun c => digitsTaken c 4 rest
  | 'U' :: rest => (codePoint? (rest.take 8)).bind fun c => digitsTaken c 8 rest
  | c :: rest => (letterEscape? c).map fun plain => (plain, rest)
  | [] => none
where
  /-- A character with the text after its digits, if there are enough of them. -/
  digitsTaken (c : Char) (count : Nat) (rest : List Char) : Option (Char × List Char) :=
    if count ≤ rest.length then some (c, rest.drop count) else none

/-- Puts a character in front of what was read. -/
def keep (c : Char) (found : List Char × List Char) : List Char × List Char :=
  (c :: found.1, found.2)

/-- A text in double quotes after the first of them, and what follows it.
The fuel bounds the characters read. -/
def readQuoted? : Nat → List Char → Option (List Char × List Char)
  | 0, _ => none
  | _ + 1, '"' :: rest => some ([], rest)
  | fuel + 1, '\\' :: rest =>
    (escape? rest).bind fun found => (readQuoted? fuel found.2).map (keep found.1)
  | fuel + 1, c :: rest => if isPlain c then (readQuoted? fuel rest).map (keep c) else none
  | _ + 1, [] => none

/-- A text in single quotes after the first of them, taken as it is. -/
def readLiteral? : List Char → Option (List Char × List Char)
  | [] => none
  | '\'' :: rest => some ([], rest)
  | c :: rest => if isPlain c then (readLiteral? rest).map (keep c) else none

/-- Text without a line end at the front. -/
def dropLineEnd : List Char → List Char
  | '\n' :: rest => rest
  | '\r' :: '\n' :: rest => rest
  | cs => cs

/-- Whether a line ends here, up to spaces. -/
def endsLine (cs : List Char) : Bool :=
  match cs.dropWhile fun c => c = ' ' || c = '\t' with
  | '\n' :: _ => true
  | '\r' :: '\n' :: _ => true
  | _ => false

/-- Text from the first character on that is neither space nor line end. -/
def dropLines : List Char → List Char
  | ' ' :: rest => dropLines rest
  | '\t' :: rest => dropLines rest
  | '\n' :: rest => dropLines rest
  | '\r' :: '\n' :: rest => dropLines rest
  | cs => cs

/-- A text between three double quotes on each side, after the first three. It may end in one or
two quotes of its own, and a backslash at a line's end joins it with the next. -/
def readQuotedLines? : Nat → List Char → Option (List Char × List Char)
  | 0, _ => none
  | _ + 1, '"' :: '"' :: '"' :: '"' :: '"' :: rest => some (['"', '"'], rest)
  | _ + 1, '"' :: '"' :: '"' :: '"' :: rest => some (['"'], rest)
  | _ + 1, '"' :: '"' :: '"' :: rest => some ([], rest)
  | fuel + 1, '\\' :: rest =>
    if endsLine rest then readQuotedLines? fuel (dropLines rest)
    else (escape? rest).bind fun found => (readQuotedLines? fuel found.2).map (keep found.1)
  -- A carriage return is only allowed in front of a line feed.
  | fuel + 1, '\r' :: '\n' :: rest =>
    (readQuotedLines? fuel rest).map fun found => keep '\r' (keep '\n' found)
  | fuel + 1, c :: rest =>
    if c = '\n' || isPlain c then (readQuotedLines? fuel rest).map (keep c) else none
  | _ + 1, [] => none

/-- A text between three single quotes on each side, after the first three. -/
def readLiteralLines? : List Char → Option (List Char × List Char)
  | [] => none
  | '\'' :: '\'' :: '\'' :: '\'' :: '\'' :: rest => some (['\'', '\''], rest)
  | '\'' :: '\'' :: '\'' :: '\'' :: rest => some (['\''], rest)
  | '\'' :: '\'' :: '\'' :: rest => some ([], rest)
  | '\r' :: '\n' :: rest => (readLiteralLines? rest).map fun found => keep '\r' (keep '\n' found)
  | c :: rest => if c = '\n' || isPlain c then (readLiteralLines? rest).map (keep c) else none

end StackPanel.Toml

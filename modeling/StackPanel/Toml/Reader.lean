import StackPanel.Toml.Scalar
import StackPanel.Toml.Text

/-! Reading TOML documents. -/

namespace StackPanel.Toml

/-- Text without spaces and tabs at the front. -/
def skipSpaces (cs : List Char) : List Char :=
  cs.dropWhile fun c => c = ' ' || c = '\t'

/-- Text after spaces, line ends and comments; none if a comment holds a control character. -/
def skipGap? (inComment : Bool) : List Char → Option (List Char)
  | [] => some []
  | '\n' :: rest => skipGap? false rest
  | '\r' :: '\n' :: rest => skipGap? false rest
  | c :: rest =>
    if inComment then (if isPlain c then skipGap? true rest else none)
    else if c = ' ' || c = '\t' then skipGap? false rest
    else if c = '#' then skipGap? true rest
    else some (c :: rest)

/-- The text after a line of which only spaces and a comment are left. -/
def endLine? (inComment : Bool) : List Char → Option (List Char)
  | [] => some []
  | '\n' :: rest => some rest
  | '\r' :: '\n' :: rest => some rest
  | c :: rest =>
    if inComment then (if isPlain c then endLine? true rest else none)
    else if c = ' ' || c = '\t' then endLine? false rest
    else if c = '#' then endLine? true rest
    else none

/-- Characters of a key without quotes. -/
def isBare (c : Char) : Bool :=
  c.isAlphanum || c = '_' || c = '-'

/-- One part of a key, and what follows it. -/
def readKeyPart? : List Char → Option (String × List Char)
  | '"' :: rest =>
    (readQuoted? (rest.length + 1) rest).map fun found => (String.ofList found.1, found.2)
  | '\'' :: rest => (readLiteral? rest).map fun found => (String.ofList found.1, found.2)
  | cs =>
    if (cs.takeWhile isBare).isEmpty then none
    else some (String.ofList (cs.takeWhile isBare), cs.dropWhile isBare)

/-- A key as the names of the tables around it and its own name, and what follows it and the spaces
after it. The fuel bounds its parts. -/
def readKey? : Nat → List Char → Option (List String × String × List Char)
  | 0, _ => none
  | fuel + 1, cs => do
    let (part, rest) ← readKeyPart? (skipSpaces cs)
    match skipSpaces rest with
    | '.' :: rest =>
      let (path, key, rest) ← readKey? fuel rest
      return (part :: path, key, rest)
    | rest => return ([], part, rest)

/-- Characters that end a word. -/
def endsWord (c : Char) : Bool :=
  c = ' ' || c = '\t' || c = '\n' || c = '\r' || c = ',' || c = ']' || c = '\x7d' || c = '#'

/-- A word, in which one space may stand between a date and a time. -/
def readWord (cs : List Char) : List Char × List Char :=
  let word := cs.takeWhile (!endsWord ·)
  match date? word, cs.dropWhile (!endsWord ·) with
  -- A space ends a word, unless the word is a date and a digit comes after it.
  | some [], ' ' :: c :: rest =>
    if c.isDigit then
      (word ++ ' ' :: (c :: rest).takeWhile (!endsWord ·), (c :: rest).dropWhile (!endsWord ·))
    else (word, ' ' :: c :: rest)
  | _, rest => (word, rest)

mutual

/-- A value at the front of a text, in which this many arrays and tables may still open.
The fuel bounds the values read. -/
def readValue? (fuel depth : Nat) (cs : List Char) : Option (Toml × List Char) :=
  match fuel with
  | 0 => none
  | fuel + 1 =>
    match cs with
    | '"' :: '"' :: '"' :: rest =>
      (readQuotedLines? (rest.length + 1) (dropLineEnd rest)).map fun found =>
        (.text (String.ofList found.1), found.2)
    | '"' :: rest =>
      (readQuoted? (rest.length + 1) rest).map fun found => (.text (String.ofList found.1), found.2)
    | '\'' :: '\'' :: '\'' :: rest =>
      (readLiteralLines? (dropLineEnd rest)).map fun found =>
        (.text (String.ofList found.1), found.2)
    | '\'' :: rest =>
      (readLiteral? rest).map fun found => (.text (String.ofList found.1), found.2)
    | '[' :: rest =>
      match depth with
      | 0 => none
      | depth + 1 => (readItems? fuel depth rest).map fun found => (.array found.1, found.2)
    | '\x7b' :: rest =>
      match depth with
      | 0 => none
      | depth + 1 =>
        (readFields? fuel depth [] rest).map fun found => (.table .inline found.1, found.2)
    | cs =>
      let (word, rest) := readWord cs
      (scalar? word).map fun value => (value, rest)

/-- The items of an array up to its closing bracket; a comma may stand after the last. -/
def readItems? (fuel depth : Nat) (cs : List Char) : Option (List Toml × List Char) :=
  match fuel with
  | 0 => none
  | fuel + 1 => do
    match ← skipGap? false cs with
    | ']' :: rest => return ([], rest)
    | cs =>
      let (item, rest) ← readValue? fuel depth cs
      match ← skipGap? false rest with
      | ']' :: rest => return ([item], rest)
      | ',' :: rest =>
        let (items, rest) ← readItems? fuel depth rest
        return (item :: items, rest)
      | _ => none

/-- The fields of a table up to its closing brace, added to those before them. -/
def readFields? (fuel depth : Nat) (fields : Fields) (cs : List Char) :
    Option (Fields × List Char) :=
  match fuel with
  | 0 => none
  | fuel + 1 => do
    match ← skipGap? false cs with
    | '\x7d' :: rest => return (fields, rest)
    | cs =>
      let (path, key, rest) ← readKey? fuel cs
      let '=' :: rest := rest | none
      let (value, rest) ← readValue? fuel depth (skipSpaces rest)
      let fields ← assign? path key value .inline fields
      match ← skipGap? false rest with
      | '\x7d' :: rest => return (fields, rest)
      | ',' :: rest => readFields? fuel depth fields rest
      | _ => none

end

/-- The arrays and tables that may be open at once. -/
def maxDepth : Nat := 80

/-- Reads the header after its opening bracket, whether it has one bracket or two. -/
def readHeader? (fuel : Nat) (isArray : Bool) (cs : List Char) : Option (Header × List Char) := do
  let (path, key, rest) ← readKey? fuel cs
  match isArray, rest with
  | true, ']' :: ']' :: rest => return ({ path, key, isArray }, rest)
  | false, ']' :: rest => return ({ path, key, isArray }, rest)
  | _, _ => none

/-- Reads the lines of a document one after another. The fuel bounds their number. -/
def readLines? : Nat → Draft → List Char → Option Draft
  | 0, _, _ => none
  | fuel + 1, draft, cs => do
    match ← skipGap? false cs with
    | [] => return draft
    | '[' :: '[' :: rest =>
      let (header, rest) ← readHeader? fuel true rest
      readLines? fuel (← draft.start? header) (← endLine? false rest)
    | '[' :: rest =>
      let (header, rest) ← readHeader? fuel false rest
      readLines? fuel (← draft.start? header) (← endLine? false rest)
    | cs =>
      let (path, key, rest) ← readKey? fuel cs
      let '=' :: rest := rest | none
      let (value, rest) ← readValue? fuel maxDepth (skipSpaces rest)
      readLines? fuel (← draft.add? path key value) (← endLine? false rest)

/-- Text without a byte order mark at the front. -/
def dropMark : List Char → List Char
  | [] => []
  | c :: rest => if c.toNat = 0xFEFF then rest else c :: rest

/-- The fields of a document. -/
def parse? (text : String) : Option Fields :=
  -- Every line takes at least one character, so there is fuel for all of them.
  (readLines? (2 * text.length + 2) .initial (dropMark text.toList)).bind Draft.close?

end StackPanel.Toml

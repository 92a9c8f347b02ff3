import StackPanel.Decimal.Shortest
import StackPanel.Json.Value

/-! JSON values as text, on one line or indented by two spaces. -/

namespace StackPanel.Json

/-- How a character is written inside a string: only quotes, backslashes and controls differ. -/
def escapeChar (c : Char) : List Char :=
  if c = '"' then ['\\', '"']
  else if c = '\\' then ['\\', '\\']
  else if c.toNat < 0x20 then
    if c.toNat = 8 then ['\\', 'b']
    else if c = '\t' then ['\\', 't']
    else if c = '\n' then ['\\', 'n']
    else if c.toNat = 12 then ['\\', 'f']
    else if c = '\r' then ['\\', 'r']
    else ['\\', 'u', '0', '0', Nat.digitChar (c.toNat / 16), Nat.digitChar (c.toNat % 16)]
  else [c]

/-- A string in double quotes. -/
def printText (value : String) : List Char :=
  '"' :: value.toList.flatMap escapeChar ++ ['"']

mutual

/-- A value on one line without spaces. -/
def print : Json → List Char
  | .null => "null".toList
  | .bool true => "true".toList
  | .bool false => "false".toList
  | .integer value => Decimal.ofInt value
  | .real value => value.text
  | .text value => printText value
  | .array items => '[' :: printItems items
  | .object fields => '\x7b' :: printFields fields

/-- Items separated by commas, and the closing bracket. -/
def printItems : List Json → List Char
  | [] => [']']
  | [item] => print item ++ [']']
  | item :: rest => print item ++ ',' :: printItems rest

/-- Fields separated by commas, and the closing brace. -/
def printFields : List (String × Json) → List Char
  | [] => ['\x7d']
  | [(key, value)] => printText key ++ ':' :: print value ++ ['\x7d']
  | (key, value) :: rest => printText key ++ ':' :: print value ++ ',' :: printFields rest

end

/-- The start of a line at an indentation depth. -/
def newLine (depth : Nat) : List Char :=
  '\n' :: List.replicate (2 * depth) ' '

mutual

/-- A value with one element to a line, as it stands at an indentation depth. -/
def indent (depth : Nat) : Json → List Char
  | .array [] => ['[', ']']
  | .array (item :: rest) => '[' :: indentItems depth (item :: rest)
  | .object [] => ['\x7b', '\x7d']
  | .object (field :: rest) => '\x7b' :: indentFields depth (field :: rest)
  | .null => "null".toList
  | .bool true => "true".toList
  | .bool false => "false".toList
  | .integer value => Decimal.ofInt value
  | .real value => value.text
  | .text value => printText value

/-- Items on lines of their own, one level deeper, and the closing bracket. -/
def indentItems (depth : Nat) : List Json → List Char
  | [] => newLine depth ++ [']']
  | [item] => newLine (depth + 1) ++ indent (depth + 1) item ++ newLine depth ++ [']']
  | item :: rest =>
    newLine (depth + 1) ++ indent (depth + 1) item ++ ',' :: indentItems depth rest

/-- Fields on lines of their own, one level deeper, and the closing brace. -/
def indentFields (depth : Nat) : List (String × Json) → List Char
  | [] => newLine depth ++ ['\x7d']
  | [(key, value)] =>
    newLine (depth + 1) ++ printText key ++ ':' :: ' ' :: indent (depth + 1) value ++
      newLine depth ++ ['\x7d']
  | (key, value) :: rest =>
    newLine (depth + 1) ++ printText key ++ ':' :: ' ' :: indent (depth + 1) value ++
      ',' :: indentFields depth rest

end

/-- The text of a value on one line. -/
def compact (value : Json) : String :=
  String.ofList (print value)

/-- The text of a value over several lines. -/
def indented (value : Json) : String :=
  String.ofList (indent 0 value)

end StackPanel.Json

/-! Cutting text at separators and at line ends. -/

namespace StackPanel.Text

/-- The pieces between separators: one more piece than there are separators. -/
def splitOn (separator : Char) : List Char → List (List Char)
  | [] => [[]]
  | c :: rest =>
    if c = separator then [] :: splitOn separator rest
    else match splitOn separator rest with
      | [] => [[c]]
      | piece :: pieces => (c :: piece) :: pieces

/-- The text before the first separator, and the text after it if there is one. -/
def splitOnce (separator : Char) (cs : List Char) : List Char × Option (List Char) :=
  match cs.dropWhile (· ≠ separator) with
  | [] => (cs, none)
  | _ :: after => (cs.takeWhile (· ≠ separator), some after)

/-- A line that ended in a line feed loses the carriage return before it. -/
def dropReturn (line : List Char) : List Char :=
  match line.reverse with
  | '\r' :: rest => rest.reverse
  | _ => line

/-- Pieces between line feeds as lines: only an ended line loses its carriage return. -/
def endLines : List (List Char) → List (List Char)
  | [] => []
  | [last] => if last.isEmpty then [] else [last]
  | line :: rest => dropReturn line :: endLines rest

/-- The lines of a text, where a final line feed ends the last line and starts no new one. -/
def lines (text : String) : List String :=
  (endLines (splitOn '\n' text.toList)).map String.ofList

end StackPanel.Text

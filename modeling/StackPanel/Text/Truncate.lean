import StackPanel.Text.Columns

/-! Cutting text to a number of terminal columns. -/

namespace StackPanel.Text

/-- The longest start of a text whose characters leave one of the columns free. -/
def keepColumns (room : Nat) : List Char → List Char
  | [] => []
  | c :: rest =>
    if charColumns c + 1 ≤ room then c :: keepColumns (room - charColumns c) rest else []

/-- A text that fits into some columns; one that is too long is cut, and the cut is marked. -/
def truncate (text : List Char) (max : Nat) : List Char :=
  if columns text ≤ max then text else keepColumns max text ++ ['…']

end StackPanel.Text

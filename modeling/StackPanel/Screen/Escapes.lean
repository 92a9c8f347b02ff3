import StackPanel.Screen.Frame

/-! A screen as text for a terminal, with escape sequences for colours and positions. -/

namespace StackPanel.Screen

/-- An escape sequence with its numbers and its final letter. -/
def escape (numbers : List Nat) (letter : Char) : String :=
  String.ofList [Char.ofNat 27, '['] ++ ";".intercalate (numbers.map toString) ++
    String.singleton letter

/-- The numbers that select a colour, counted from thirty for text and from forty for the ground. -/
def Color.numbers (base : Nat) : Color → List Nat
  | .default => [base + 9]
  | .cyan => [base + 6]
  | .white => [base + 67]
  | .yellow => [base + 3]
  | .darkGray => [base + 60]
  | .rgb red green blue => [base + 8, 2, red, green, blue]

/-- The sequence that selects the style of a cell. -/
def Cell.escape (cell : Cell) : String :=
  Screen.escape ((0 :: (if cell.bold then [1] else []) ++ if cell.underlined then [4] else []) ++
    cell.foreground.numbers 30 ++ cell.background.numbers 40) 'm'

/-- A row with its styles. -/
def Row.escaped (row : Row) : String :=
  String.join ((runs row.visible).map fun run => run.escape ++ String.ofList run.symbol)

/-- A whole screen, drawn over what was there before. The cursor goes to its place, or below the
last row if it has none. -/
def Frame.escaped (frame : Frame) : String :=
  let (column, row) := frame.cursor.getD (0, frame.rows.length)
  escape [1, 1] 'H' ++ "\r\n".intercalate (frame.rows.map Row.escaped) ++ escape [0] 'm' ++
    escape [] 'J' ++ escape [row + 1, column + 1] 'H'

end StackPanel.Screen

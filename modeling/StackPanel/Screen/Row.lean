import StackPanel.Screen.Line

/-! Rows of screen cells and painting on them. -/

namespace StackPanel.Screen

/-- One cell of the screen. -/
structure Cell where
  /-- The symbol that starts in this cell. -/
  symbol : List Char := [' ']
  /-- The colour of the symbol. -/
  foreground : Color := .default
  /-- The colour behind it. -/
  background : Color := .default
  /-- Whether the symbol is bold. -/
  bold : Bool := false
  /-- Whether the symbol is underlined. -/
  underlined : Bool := false
  deriving DecidableEq

/-- A cell in another style, with its symbol kept. -/
def Cell.restyle (cell : Cell) (style : Style) : Cell :=
  { cell with
    foreground := style.foreground.getD cell.foreground
    background := style.background.getD cell.background
    bold := cell.bold || style.bold
    underlined := cell.underlined || style.underlined }

/-- A cell with another symbol, in that symbol's style as far as it goes. -/
def Cell.paint (cell : Cell) (glyph : Glyph) : Cell :=
  { cell.restyle glyph.style with symbol := glyph.symbol }

/-- A row of the screen, one cell for each column. -/
abbrev Row := List Cell

namespace Row

/-- Paints symbols from the left. A wide symbol is kept in its first cell and leaves the others
alone; a symbol without columns leaves no trace. -/
def paint : List Glyph → Row → Row
  | [], row => row
  | _ :: _, [] => []
  | glyph :: rest, cell :: row =>
    if glyph.columns = 0 then paint rest (cell :: row)
    else
      cell.paint glyph ::
        (row.take (glyph.columns - 1) ++ paint rest (row.drop (glyph.columns - 1)))

/-- Paints symbols from some column on. -/
def paintAt (column : Nat) (glyphs : List Glyph) (row : Row) : Row :=
  row.take column ++ paint glyphs (row.drop column)

/-- An empty row in a style. -/
def blank (columns : Nat) (style : Style) : Row :=
  List.replicate columns (Cell.restyle {} style)

/-- A row that holds one line on a ground of one style. -/
def bar (columns : Nat) (style : Style) (line : Line) : Row :=
  paint (line.fitting columns) (blank columns style)

/-- The cells that can be seen, without those that a wide symbol covers.
The number counts the cells still covered. -/
def visibleFrom : Nat → Row → List Cell
  | _, [] => []
  | 0, cell :: rest => cell :: visibleFrom (Text.columns cell.symbol - 1) rest
  | covered + 1, _ :: rest => visibleFrom covered rest

/-- The cells of a row that can be seen. -/
def visible (row : Row) : List Cell :=
  visibleFrom 0 row

/-- The text of a row. -/
def text (row : Row) : List Char :=
  row.visible.flatMap Cell.symbol

/-- Whether two cells look the same, whatever symbols they hold. -/
def sameLook (a b : Cell) : Bool :=
  { a with symbol := [] } = { b with symbol := [] }

/-- Neighbouring cells that look the same as one cell with all their symbols. -/
def runs : List Cell → List Cell
  | [] => []
  | cell :: rest =>
    match runs rest with
    | [] => [cell]
    | run :: later =>
      if sameLook cell run then { cell with symbol := cell.symbol ++ run.symbol } :: later
      else cell :: run :: later

end Row

end StackPanel.Screen

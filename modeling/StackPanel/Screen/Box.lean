import StackPanel.Screen.Row

/-! Bordered boxes with a title. -/

namespace StackPanel.Screen

/-- A bordered box. -/
structure Box where
  /-- The columns of the box, border included. -/
  columns : Nat
  /-- The rows of the box, border included. -/
  rows : Nat
  /-- The colour of the border. -/
  border : Color
  /-- The title, which stands on the upper border. -/
  title : Span

namespace Box

/-- The columns inside the border. -/
def innerColumns (box : Box) : Nat :=
  box.columns - 2

/-- The rows inside the border. -/
def innerRows (box : Box) : Nat :=
  box.rows - 2

/-- A row that starts and ends with border symbols and repeats one symbol between them. -/
def edge (box : Box) (left middle right : Char) : Row :=
  let cell (symbol : Char) : Cell := Cell.restyle { symbol := [symbol] } (.colored box.border)
  (cell left :: List.replicate box.innerColumns (cell middle) ++ [cell right]).take box.columns

/-- The upper border with the title on it. -/
def top (box : Box) : Row :=
  (box.edge '┌' '─' '┐').paintAt 1 (Line.fitting [box.title] box.innerColumns)

/-- A row inside the box. -/
def inner (box : Box) (glyphs : List Glyph) : Row :=
  let side : Cell := Cell.restyle { symbol := ['│'] } (.colored box.border)
  let empty : Row := (side :: Row.blank box.innerColumns {} ++ [side]).take box.columns
  empty.paintAt 1 glyphs

/-- The rows of a box with lines in it; lines past its last row are not drawn. A box of a single row
is its upper border. -/
def draw (box : Box) (lines : List (List Glyph)) : List Row :=
  let shown := lines.take box.innerRows
  let padding := List.replicate (box.innerRows - shown.length) []
  (box.top :: (shown ++ padding).map box.inner ++ [box.edge '└' '─' '┘']).take box.rows

end Box

end StackPanel.Screen

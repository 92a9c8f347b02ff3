import StackPanel.Screen.Style
import StackPanel.Text.Columns

/-! Lines of styled text, and the symbols they are drawn with. -/

namespace StackPanel.Screen

/-- A piece of a line in one style. -/
structure Span where
  /-- The text. -/
  text : String
  /-- Its style. -/
  style : Style := {}
  deriving DecidableEq

/-- Pieces of text one after another. -/
abbrev Line := List Span

/-- A symbol on the screen, which is one user-perceived character. -/
structure Glyph where
  /-- The characters of the symbol. -/
  symbol : List Char
  /-- The columns it takes. -/
  columns : Nat
  /-- Its style. -/
  style : Style
  deriving DecidableEq

/-- The symbols of a piece; a line feed is left out. -/
def Span.glyphs (span : Span) : List Glyph :=
  ((Text.clusters span.text.toList).filter (· ≠ ['\n'])).map fun symbol =>
    { symbol, columns := Text.columns symbol, style := span.style }

/-- The symbols of a line. -/
def Line.glyphs (line : Line) : List Glyph :=
  line.flatMap Span.glyphs

/-- The columns that symbols take together. -/
def width (glyphs : List Glyph) : Nat :=
  glyphs.foldr (fun glyph rest => glyph.columns + rest) 0

/-- The symbols up to the first that no longer fits; a symbol that is too wide for any line is
passed over. -/
def cut (limit : Nat) : Nat → List Glyph → List Glyph
  | _, [] => []
  | used, glyph :: rest =>
    if limit < glyph.columns then cut limit used rest
    else if limit < used + glyph.columns then []
    else glyph :: cut limit (used + glyph.columns) rest

/-- The part of a line that fits into some columns. -/
def Line.fitting (line : Line) (limit : Nat) : List Glyph :=
  cut limit 0 (Line.glyphs line)

end StackPanel.Screen

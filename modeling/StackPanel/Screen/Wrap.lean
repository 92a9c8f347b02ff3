import StackPanel.Screen.Line
import StackPanel.Text.Blank

/-! Breaking a long line between words. -/

namespace StackPanel.Screen

/-- Whether a line may be broken at a symbol. -/
def Glyph.isBreak (glyph : Glyph) : Bool :=
  glyph.symbol = [Char.ofNat 0x200B] ||
    (glyph.symbol.all Text.isBlank && glyph.symbol ≠ [Char.ofNat 0xA0])

/-- A line on the way to being broken. -/
structure Wrapping where
  /-- The lines that are finished. -/
  finished : List (List Glyph) := []
  /-- The words that stand on the current line for good. -/
  line : List Glyph := []
  /-- The spaces after them. -/
  spaces : List Glyph := []
  /-- The word after the spaces, which may still move to the next line. -/
  word : List Glyph := []
  /-- Whether the last symbol belongs to a word. -/
  inWord : Bool := false

namespace Wrapping

/-- Puts the spaces and the word on the current line for good. -/
def settle (state : Wrapping) : Wrapping :=
  { state with line := state.line ++ state.spaces ++ state.word, spaces := [], word := [] }

/-- Adds a symbol to the spaces or to the word. -/
def add (state : Wrapping) (glyph : Glyph) : Wrapping :=
  if glyph.isBreak then { state with spaces := state.spaces ++ [glyph], inWord := false }
  else { state with word := state.word ++ [glyph], inWord := true }

/-- The spaces without those at the front that fill a line up. -/
def dropFitting (room : Nat) : List Glyph → List Glyph
  | [] => []
  | glyph :: rest =>
    if room < glyph.columns then glyph :: rest else dropFitting (room - glyph.columns) rest

/-- Ends the current line. Spaces that would have fitted on it vanish. -/
def endLine (limit : Nat) (state : Wrapping) : Wrapping :=
  { state with
    finished := state.finished ++ [state.line]
    line := []
    spaces := dropFitting (limit - width state.line) state.spaces }

/-- Takes in the next symbol. -/
def step (limit : Nat) (state : Wrapping) (glyph : Glyph) : Wrapping :=
  if limit < glyph.columns then state
  else
    -- A word is complete at the space after it, or once it alone fills a line.
    let overfull := state.line.isEmpty &&
      limit < width state.word + width state.spaces + glyph.columns
    let state := if (state.inWord && glyph.isBreak) || overfull then state.settle else state
    -- Full by its words alone, or because the word under way reaches the end of the line.
    let isFull := limit ≤ width state.line ||
      (0 < glyph.columns && limit ≤ width state.line + width state.spaces + width state.word)
    if isFull then
      let state := state.endLine limit
      -- The space at which a line is broken goes with the line.
      if glyph.isBreak && state.spaces.isEmpty then state else state.add glyph
    else state.add glyph

/-- The lines once every symbol has been taken in; there is always one. -/
def close (state : Wrapping) : List (List Glyph) :=
  -- Nothing but spaces leaves an empty line in front of them.
  let onlySpaces := state.line.isEmpty && state.word.isEmpty && !state.spaces.isEmpty
  let finished := if onlySpaces then state.finished ++ [[]] else state.finished
  let last := state.line ++ state.spaces ++ state.word
  let finished := if last.isEmpty then finished else finished ++ [last]
  if finished.isEmpty then [[]] else finished

end Wrapping

/-- A line broken into lines of some columns. -/
def wrap (limit : Nat) (glyphs : List Glyph) : List (List Glyph) :=
  if limit = 0 then [] else (glyphs.foldl (Wrapping.step limit) {}).close

end StackPanel.Screen

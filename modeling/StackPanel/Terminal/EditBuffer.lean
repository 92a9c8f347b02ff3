import StackPanel.Panel.Field
import StackPanel.Terminal.Key
import StackPanel.Text.Offset

/-! Editing the text of one field before it is taken over. -/

namespace StackPanel

/-- A field's text while it is edited. -/
structure EditBuffer where
  /-- The field the text is for. -/
  field : Field
  /-- The text so far. -/
  text : String
  /-- The position of the cursor, in bytes from the start. -/
  cursor : Nat
  deriving DecidableEq

namespace EditBuffer

/-- Starts an edit with the cursor after the text. -/
def ofField (field : Field) (text : String) : EditBuffer :=
  { field, text, cursor := text.utf8ByteSize }

/-- White space at which words end, as it appears among bytes. -/
def isSpaceByte (b : UInt8) : Bool :=
  b = 9 || b = 10 || b = 12 || b = 13 || b = 32

/-- A buffer whose cursor stands between two runs of characters. -/
def between (buffer : EditBuffer) (left right : List Char) : EditBuffer :=
  { buffer with text := String.ofList (left ++ right), cursor := Text.byteLength left }

/-- Inserts a character at the cursor. -/
def insert? (buffer : EditBuffer) (c : Char) : Option EditBuffer :=
  (Text.cutAt? buffer.text.toList buffer.cursor).map fun (left, right) =>
    { buffer with
      text := String.ofList (left ++ c :: right)
      cursor := buffer.cursor + c.utf8Size }

/-- Removes the bytes from a position to the cursor and puts the cursor there. -/
def removeFrom? (buffer : EditBuffer) (start : Nat) : Option EditBuffer := do
  let (left, right) ← Text.cutAt? buffer.text.toList buffer.cursor
  let (kept, _) ← Text.cutAt? left start
  return { buffer with text := String.ofList (kept ++ right), cursor := start }

/-- Removes the character before the cursor. -/
def backspace? (buffer : EditBuffer) : Option EditBuffer :=
  if buffer.cursor = 0 then some buffer
  else do buffer.removeFrom? (← Text.previousBoundary? buffer.text buffer.cursor)

/-- Removes the character after the cursor. -/
def delete? (buffer : EditBuffer) : Option EditBuffer :=
  if buffer.text.utf8ByteSize ≤ buffer.cursor then some buffer
  else
    (Text.cutAt? buffer.text.toList buffer.cursor).map fun (left, right) =>
      { buffer with text := String.ofList (left ++ right.drop 1) }

/-- Where the word before the cursor starts: back over spaces, then back over all else. -/
def wordStart (left : List Char) : Nat :=
  -- No byte of a character beyond ASCII is one of the spaces, so the count ends between characters.
  (((Text.bytes left).reverse.dropWhile isSpaceByte).dropWhile (!isSpaceByte ·)).length

/-- Removes the word before the cursor and the spaces after it. -/
def removeWord? (buffer : EditBuffer) : Option EditBuffer := do
  let (left, _) ← Text.cutAt? buffer.text.toList buffer.cursor
  buffer.removeFrom? (wordStart left)

/-- Removes everything. -/
def clear (buffer : EditBuffer) : EditBuffer :=
  { buffer with text := "", cursor := 0 }

/-- The buffer after one key, and whether the edit is finished. There is none if the cursor is
not between two characters of the text. -/
def press? (buffer : EditBuffer) (press : KeyPress) : Option (EditBuffer × Bool) :=
  match press.key with
  | .escape => some (buffer, true)
  | .enter =>
    if buffer.field.isMultiline then (buffer.insert? '\n').map (·, false) else some (buffer, true)
  | .char c =>
    if !press.control then (buffer.insert? c).map (·, false)
    else if c = 'w' then buffer.removeWord?.map (·, false)
    else if c = 'u' then some (buffer.clear, false)
    -- Other letters with the control key are not typed.
    else some (buffer, false)
  | .backspace => buffer.backspace?.map (·, false)
  | .delete => buffer.delete?.map (·, false)
  | .left =>
    (Text.previousBoundary? buffer.text buffer.cursor).map fun cursor =>
      ({ buffer with cursor }, false)
  | .right =>
    (Text.nextBoundary? buffer.text buffer.cursor).map fun cursor => ({ buffer with cursor }, false)
  | .lineStart => some ({ buffer with cursor := 0 }, false)
  | .lineEnd => some ({ buffer with cursor := buffer.text.utf8ByteSize }, false)
  | _ => some (buffer, false)

end EditBuffer

end StackPanel

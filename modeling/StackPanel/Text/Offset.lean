/-! Positions in a text counted in bytes of its UTF-8 form. -/

namespace StackPanel.Text

/-- The bytes that characters take in UTF-8. -/
def byteLength : List Char → Nat
  | [] => 0
  | c :: rest => c.utf8Size + byteLength rest

/-- The bytes of characters in UTF-8. -/
def bytes (cs : List Char) : List UInt8 :=
  cs.flatMap String.utf8EncodeChar

/-- Cuts characters at a byte offset; none if the offset is inside a character or past the end. -/
def cutAt? : List Char → Nat → Option (List Char × List Char)
  | cs, 0 => some ([], cs)
  | [], _ + 1 => none
  | c :: rest, offset + 1 =>
    -- The character fits before the cut or the cut falls inside it.
    if c.utf8Size ≤ offset + 1 then
      (cutAt? rest (offset + 1 - c.utf8Size)).map fun halves => (c :: halves.1, halves.2)
    else none

/-- An offset that falls between two characters or at an end of the text. -/
def IsBoundary (text : String) (offset : Nat) : Prop :=
  (cutAt? text.toList offset).isSome

instance (text : String) (offset : Nat) : Decidable (IsBoundary text offset) :=
  inferInstanceAs (Decidable ((cutAt? text.toList offset).isSome = true))

/-- The characters before an offset, which counts as the end when it lies past it. -/
def before? (text : String) (offset : Nat) : Option (List Char) :=
  (cutAt? text.toList (min offset text.utf8ByteSize)).map (·.1)

/-- The characters from an offset on, which counts as the end when it lies past it. -/
def after? (text : String) (offset : Nat) : Option (List Char) :=
  (cutAt? text.toList (min offset text.utf8ByteSize)).map (·.2)

/-- The start of the character that ends at an offset, or zero at the start of the text. -/
def previousBoundary? (text : String) (offset : Nat) : Option Nat :=
  (before? text offset).map fun left => byteLength left.dropLast

/-- The end of the character that starts at an offset, or the end of the text. -/
def nextBoundary? (text : String) (offset : Nat) : Option Nat :=
  (after? text offset).map fun
    | c :: _ => offset + c.utf8Size
    | [] => text.utf8ByteSize

end StackPanel.Text

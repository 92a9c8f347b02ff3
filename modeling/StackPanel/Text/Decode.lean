/-! Reading bytes as UTF-8, with a sign in place of whatever is not. -/

namespace StackPanel.Text

/-- What stands for bytes that are no character. -/
def replacement : Char := Char.ofNat 0xFFFD

/-- A byte that continues a character, from some value to another. -/
def isTail (low high : Nat) : List UInt8 → Bool
  | b :: _ => low ≤ b.toNat && b.toNat ≤ high
  | [] => false

/-- The bounds of the second byte after a first one, and the number of bytes in all. Bounds narrower
than usual leave out spellings that are too long, and surrogates. -/
def shape? (first : UInt8) : Option (Nat × Nat × Nat) :=
  let b := first.toNat
  if 0xC2 ≤ b ∧ b ≤ 0xDF then some (0x80, 0xBF, 2)
  else if b = 0xE0 then some (0xA0, 0xBF, 3)
  else if b = 0xED then some (0x80, 0x9F, 3)
  else if 0xE1 ≤ b ∧ b ≤ 0xEF then some (0x80, 0xBF, 3)
  else if b = 0xF0 then some (0x90, 0xBF, 4)
  else if b = 0xF4 then some (0x80, 0x8F, 4)
  else if 0xF1 ≤ b ∧ b ≤ 0xF3 then some (0x80, 0xBF, 4)
  else none

/-- The number of bytes after the first that belong to it, at most those of one character. -/
def tailLength (first : UInt8) (rest : List UInt8) : Nat :=
  match shape? first with
  | none => 0
  | some (low, high, size) =>
    if !isTail low high rest then 0
    else if size = 2 || !isTail 0x80 0xBF (rest.drop 1) then 1
    else if size = 3 || !isTail 0x80 0xBF (rest.drop 2) then 2
    else 3

/-- The character of a first byte and all the bytes after it. -/
def character? (first : UInt8) (tail : List UInt8) : Option Char :=
  let lead := first.toNat
  let spelled := tail.foldl (fun code b => 64 * code + (b.toNat - 0x80))
  -- A first byte that announces more bytes than there are is no character.
  match tail.length with
  | 0 => if lead < 0x80 then some (Char.ofNat lead) else none
  | 1 => if lead < 0xE0 then some (Char.ofNat (spelled (lead - 0xC0))) else none
  | 2 => if lead < 0xF0 then some (Char.ofNat (spelled (lead - 0xE0))) else none
  | _ => some (Char.ofNat (spelled (lead - 0xF0)))

/-- The characters of bytes, where the longest start of a character that breaks off counts as one
sign. The fuel bounds the characters. -/
def decodeFrom : Nat → List UInt8 → List Char
  | 0, _ => []
  | _ + 1, [] => []
  | fuel + 1, first :: rest =>
    let tail := rest.take (tailLength first rest)
    (character? first tail).getD replacement :: decodeFrom fuel (rest.drop tail.length)

/-- The text of bytes. -/
def decode (bytes : ByteArray) : String :=
  String.ofList (decodeFrom bytes.size bytes.toList)

end StackPanel.Text

/-! What an attempt to read a file finds. -/

namespace StackPanel

/-- The outcome of reading a file as text. -/
inductive Reading where
  /-- There is no such file. -/
  | missing
  /-- There is something that cannot be read. -/
  | unreadable
  /-- There is a file, but its bytes are not UTF-8. -/
  | garbled
  /-- There is a text. -/
  | content (text : String)
  deriving DecidableEq

/-- What is found where a file holds some bytes. -/
def Reading.ofBytes (bytes : ByteArray) : Reading :=
  match String.fromUTF8? bytes with
  | some text => .content text
  | none => .garbled

end StackPanel

import StackPanel.Text.Ranges
import StackPanel.Text.Table.Extending
import StackPanel.Text.Table.Printing

/-! Text quoted inside messages, so that invisible characters show. -/

namespace StackPanel.Text

/-- A character as its code point in lowercase hexadecimal, such as `\u{301}`. -/
def codePointEscape (c : Char) : List Char :=
  ['\\', 'u', '\x7b'] ++ Nat.toDigits 16 c.toNat ++ ['\x7d']

/-- How one character is written between quotes. -/
def quoteChar (c : Char) : List Char :=
  if c = '"' then ['\\', '"']
  else if c = '\\' then ['\\', '\\']
  else if c = '\n' then ['\\', 'n']
  else if c = '\r' then ['\\', 'r']
  else if c = '\t' then ['\\', 't']
  else if c = Char.ofNat 0 then ['\\', '0']
  else if 0x20 ≤ c.toNat && c.toNat < 0x7F then [c]
  -- A combining character would join the quote before it, so it is spelled out as well.
  else if inRanges Table.graphemeExtend c || inRanges Table.unprintable c then codePointEscape c
  else [c]

/-- Text in double quotes with invisible and combining characters escaped. -/
def quoted (text : String) : String :=
  String.ofList ('"' :: text.toList.flatMap quoteChar ++ ['"'])

end StackPanel.Text

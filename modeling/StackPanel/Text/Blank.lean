/-! White space, as Unicode's White_Space property defines it, and trimming it away. -/

namespace StackPanel.Text

/-- Unicode's White_Space property. -/
def isBlank (c : Char) : Bool :=
  let code := c.toNat
  (9 ≤ code && code ≤ 13) || code == 0x20 || code == 0x85 || code == 0xA0 || code == 0x1680 ||
    (0x2000 ≤ code && code ≤ 0x200A) || code == 0x2028 || code == 0x2029 || code == 0x202F ||
    code == 0x205F || code == 0x3000

/-- Drops the longest ending whose characters all satisfy the test. -/
def dropEndWhile (drops : Char → Bool) (cs : List Char) : List Char :=
  (cs.reverse.dropWhile drops).reverse

/-- Characters without the white space at both ends. -/
def trimChars (cs : List Char) : List Char :=
  dropEndWhile isBlank (cs.dropWhile isBlank)

/-- Text without the white space at both ends. -/
def trim (text : String) : String :=
  String.ofList (trimChars text.toList)

/-- Text that holds nothing but white space. -/
def blank (text : String) : Bool :=
  text.toList.all isBlank

end StackPanel.Text

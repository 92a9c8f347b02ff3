/-! Digits and the numbers they stand for. -/

namespace StackPanel.Text

/-- The value of a decimal digit. -/
def digitValue (c : Char) : Nat :=
  c.toNat - '0'.toNat

/-- The number that decimal digits stand for. -/
def decimalValue (ds : List Char) : Nat :=
  ds.foldl (fun value c => 10 * value + digitValue c) 0

/-- The number that a text of decimal digits and nothing else stands for. -/
def decimal? (cs : List Char) : Option Nat :=
  if cs.isEmpty || !cs.all Char.isDigit then none else some (decimalValue cs)

/-- The value of a hexadecimal digit. -/
def hexValue? (c : Char) : Option Nat :=
  if '0' ≤ c ∧ c ≤ '9' then some (digitValue c)
  else if 'a' ≤ c ∧ c ≤ 'f' then some (c.toNat - 'a'.toNat + 10)
  else if 'A' ≤ c ∧ c ≤ 'F' then some (c.toNat - 'A'.toNat + 10)
  else none

/-- The number that hexadecimal digits stand for; none if there is another character. -/
def hex? (ds : List Char) : Option Nat :=
  (ds.mapM hexValue?).map fun values => values.foldl (fun value d => 16 * value + d) 0

end StackPanel.Text

import StackPanel.Instant.Reader
import StackPanel.Stack.Summary
import StackPanel.Text.Blank

/-! How a card shows the fields of a stack. -/

namespace StackPanel.Display

/-- What stands for a field without a value. -/
def missing : String := "-"

/-- Trimmed text. -/
def text (value : Option String) : String :=
  match value with
  | none => missing
  | some raw => if Text.blank raw then missing else Text.trim raw

/-- A moment in Coordinated Universal Time; text that is no date and time stays as it is. -/
def timestamp (value : Option String) : String :=
  match value with
  | none => missing
  | some raw =>
    if Text.blank raw then missing
    else match Instant.ofChars? (Text.trimChars raw.toList) with
      | some instant => instant.text
      | none => raw

/-- The double nearest to a natural number, which is a natural number again. -/
def nearestDouble (n : Nat) : Nat :=
  -- Fifty-three bits are kept.
  let surplus := n.log2 - 52
  let unit := Nat.pow 2 surplus
  Decimal.roundDiv n unit * unit

/-- An amount of memory in the largest unit that it reaches. -/
def memory (value : Option Int) : String :=
  match value with
  | none => missing
  -- A negative amount reaches no unit.
  | some (.negSucc n) => "-" ++ toString (n + 1) ++ " B"
  | some (.ofNat n) =>
    -- The unit is chosen after rounding to a double.
    let amount := nearestDouble n
    if amount < 1024 then toString n ++ " B"
    else if amount < Nat.pow 1024 2 then
      String.ofList (Decimal.fixed 1 (Decimal.roundDiv (10 * amount) 1024)) ++ " KB"
    else if amount < Nat.pow 1024 3 then
      String.ofList (Decimal.fixed 1 (Decimal.roundDiv (10 * amount) (Nat.pow 1024 2))) ++ " MB"
    else String.ofList (Decimal.fixed 2 (Decimal.roundDiv (100 * amount) (Nat.pow 1024 3))) ++ " GB"

/-- A processor share in thousandths. -/
def processor (value : Option Int) : String :=
  match value with
  | none => missing
  | some n => String.ofList (Decimal.ofInt n) ++ "m"

/-- Port mappings in a row; a shape that is not known is shown as JSON. -/
def ports (summary : StackSummary) : String :=
  match summary.ports with
  | none | some .null => missing
  | some raw =>
    match PortMapping.listOfJson? raw with
    | some [] => missing
    | some mappings => ", ".intercalate (mappings.map PortMapping.label)
    | none => raw.compact

end StackPanel.Display

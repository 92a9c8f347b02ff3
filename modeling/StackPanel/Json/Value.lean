import StackPanel.Decimal.Double
import StackPanel.Entries

/-! JSON values, with the fields of an object sorted by key. -/

namespace StackPanel

open Decimal (Double)

/-- A JSON value, with whole numbers apart from all others. -/
inductive Json where
  | null
  | bool (value : Bool)
  | integer (value : Int)
  | real (value : Double)
  | text (value : String)
  | array (items : List Json)
  | object (fields : List (String × Json))

namespace Json

/-- The value of a field, if this is an object that has it. -/
def field? (value : Json) (key : String) : Option Json :=
  match value with
  | .object fields => Entries.find? key fields
  | _ => none

/-- The characters of a string value. -/
def text? : Json → Option String
  | .text value => some value
  | _ => none

/-- An object from its fields in any order. -/
def ofFields (fields : List (String × Json)) : Json :=
  .object (Entries.ofPairs fields)

end Json

end StackPanel

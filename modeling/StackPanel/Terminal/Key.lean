/-! Keys as a terminal reports them. -/

namespace StackPanel

/-- A key. -/
inductive Key where
  | char (c : Char)
  | enter
  | escape
  | left
  | right
  | up
  | down
  | lineStart
  | lineEnd
  | tab
  | backTab
  | backspace
  | delete
  | insert
  | pageUp
  | pageDown
  | function (number : Nat)
  /-- Any other key, such as a lock or a media key. -/
  | other
  deriving DecidableEq

/-- The names of keys that are no characters. -/
def Key.names : List (String × Key) :=
  [("Enter", .enter), ("Esc", .escape), ("Left", .left), ("Right", .right), ("Up", .up),
    ("Down", .down), ("Home", .lineStart), ("End", .lineEnd), ("Tab", .tab),
    ("BackTab", .backTab), ("Backspace", .backspace), ("Delete", .delete), ("Insert", .insert),
    ("PageUp", .pageUp), ("PageDown", .pageDown), ("F1", .function 1)]

/-- The key of a name, which for a character is the character itself. -/
def Key.ofName? (name : String) : Option Key :=
  match name.toList with
  | [c] => some (.char c)
  | _ => names.lookup name

/-- A key with the modifiers held down. -/
structure KeyPress where
  /-- The key. -/
  key : Key
  /-- Whether the control key is held. -/
  control : Bool := false
  /-- Whether the alternate key is held. -/
  alt : Bool := false
  /-- Whether the shift key is held. -/
  shift : Bool := false
  deriving DecidableEq

/-- The keys that a typed line stands for: an empty line is the enter key, a key's name is that key,
with `Ctrl+` in front of it if the control key is held, and any other text is its characters. -/
def KeyPress.ofLine (line : String) : List KeyPress :=
  match line.toList with
  | [] => [{ key := .enter }]
  | 'C' :: 't' :: 'r' :: 'l' :: '+' :: name =>
    match Key.ofName? (String.ofList name) with
    | some key => [{ key, control := true }]
    | none => line.toList.map fun c => { key := .char c }
  | cs =>
    match Key.ofName? line with
    | some key => [{ key }]
    | none => cs.map fun c => { key := .char c }

end StackPanel

import StackPanel.Entries

/-! TOML values, and how keys and headers build up their tables. -/

namespace StackPanel

/-- How a table came about, which decides what may still be added to it. -/
inductive TableKind where
  /-- By a header of its own, or as the whole document. -/
  | headed
  /-- By the header of a table inside it. -/
  | implied
  /-- By a dotted key. -/
  | dotted
  /-- Between braces, complete from the start. -/
  | inline
  deriving DecidableEq

/-- A TOML value. Of numbers with a fraction and of dates only the kind is kept. -/
inductive Toml where
  | text (value : String)
  | integer (value : Int)
  | real
  | bool (value : Bool)
  | moment
  | array (items : List Toml)
  | table (kind : TableKind) (fields : List (String × Toml))
  /-- Tables under headers in double brackets, the last of which is still open. -/
  | tables (items : List (List (String × Toml)))

namespace Toml

/-- The fields of a table. -/
abbrev Fields := List (String × Toml)

/-- Changes the table at the end of a path, making the tables on the way that do not exist yet.
There is none if the path leads through a value that is no open table. A path from a dotted key may
not enter a table that has a header of its own. -/
def within? (fromKey : Bool) (change : TableKind → Fields → Option Fields) :
    List String → TableKind → Fields → Option Fields
  | [], kind, fields => change kind fields
  | key :: path, _, fields =>
    match Entries.find? key fields with
    | none =>
      let kind : TableKind := if fromKey then .dotted else .implied
      (within? fromKey change path kind []).map fun inner =>
        Entries.insert key (.table kind inner) fields
    | some (.table kind inner) =>
      if kind = .inline || (fromKey && kind = .headed) then none
      else (within? fromKey change path kind inner).map fun inner =>
        Entries.insert key (.table kind inner) fields
    | some (.tables items) =>
      match items.getLast? with
      | none => none
      -- Only the last table of an array can still be reached, as if under a header of its own.
      | some last => (within? fromKey change path .headed last).map fun inner =>
        Entries.insert key (.tables (items.dropLast ++ [inner])) fields
    | some _ => none

/-- Adds a value under a key with a path of tables in front. Every key is set once, and a table made
by dotted keys is only reached through them. -/
def assign? (path : List String) (key : String) (value : Toml) (kind : TableKind)
    (fields : Fields) : Option Fields :=
  within? (!path.isEmpty) (fun kind fields =>
    -- A dotted key adds to tables made by dotted keys, and a plain one to all others.
    if decide (kind = .dotted) = path.isEmpty || (Entries.find? key fields).isSome then none
    else some (Entries.insert key value fields)) path kind fields

/-- The table at the end of a path of headers, empty if it does not exist yet. -/
def fieldsAt? : List String → Fields → Option Fields
  | [], fields => some fields
  | key :: path, fields =>
    match Entries.find? key fields with
    | none => some []
    | some (.table kind inner) => if kind = .inline then none else fieldsAt? path inner
    | some (.tables items) => items.getLast?.bind (fieldsAt? path)
    | some _ => none

/-- A header of a table, or of one more table of an array. -/
structure Header where
  /-- The tables around it. -/
  path : List String
  /-- Its name. -/
  key : String
  /-- Whether it stands in double brackets. -/
  isArray : Bool

/-- A document that is being read. -/
structure Draft where
  /-- The tables that are finished. -/
  root : Fields
  /-- The header of the current table; before the first header there is none. -/
  header : Option Header
  /-- The fields of the current table so far. -/
  current : Fields

namespace Draft

/-- A document of which nothing has been read. -/
def initial : Draft :=
  { root := [], header := none, current := [] }

/-- Puts the current table in its place. -/
def close? (draft : Draft) : Option Fields :=
  match draft.header with
  | none => some draft.current
  | some header =>
    within? false (fun _ fields =>
      if header.isArray then
        match Entries.find? header.key fields with
        | none => some (Entries.insert header.key (.tables [draft.current]) fields)
        | some (.tables items) =>
          some (Entries.insert header.key (.tables (items ++ [draft.current])) fields)
        | some _ => none
      else some (Entries.insert header.key (.table .headed draft.current) fields))
      header.path .headed draft.root

/-- Starts the table of a header. A table that so far only had tables inside it keeps them, and
any other table has its header once. -/
def start? (draft : Draft) (header : Header) : Option Draft := do
  let root ← draft.close?
  if header.isArray then return { root, header := some header, current := [] }
  else
    let fields ← fieldsAt? header.path root
    match Entries.find? header.key fields with
    | none => return { root, header := some header, current := [] }
    | some (.table .implied inner) => return { root, header := some header, current := inner }
    | some _ => none

/-- Adds a value to the current table. -/
def add? (draft : Draft) (path : List String) (key : String) (value : Toml) : Option Draft :=
  (assign? path key value .headed draft.current).map fun current => { draft with current }

end Draft

end Toml

end StackPanel

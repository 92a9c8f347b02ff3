/-! Associations from text to values, kept in the order of their keys. -/

namespace StackPanel.Entries

variable {α : Type}

/-- Puts a value under a key, in its place among the sorted keys. -/
def insert (key : String) (value : α) : List (String × α) → List (String × α)
  | [] => [(key, value)]
  | entry :: rest =>
    if key < entry.1 then (key, value) :: entry :: rest
    else if key = entry.1 then (key, value) :: rest
    else entry :: insert key value rest

/-- The value under a key. -/
def find? (key : String) : List (String × α) → Option α
  | [] => none
  | entry :: rest => if key = entry.1 then some entry.2 else find? key rest

/-- Entries from pairs in any order; of two pairs with one key the later wins. -/
def ofPairs (pairs : List (String × α)) : List (String × α) :=
  pairs.foldl (fun entries pair => insert pair.1 pair.2 entries) []

end StackPanel.Entries

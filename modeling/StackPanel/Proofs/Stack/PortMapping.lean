import Mathlib.Data.List.Forall2
import StackPanel.Stack.Port

/-! Which values describe port mappings, and which of them list several. -/

namespace StackPanel.PortMapping

/-- Whether a value is a port number, which is a whole number of 32 bits. -/
def IsPort (value : Json) (port : Nat) : Prop :=
  value = .integer port ∧ port < UInt32.size

/-- Whether a part that may be missing holds something that may be absent, for which null stands as
well. -/
inductive Holds {α : Type} (is : Json → α → Prop) : Option Json → Option α → Prop where
  | missing : Holds is none none
  | null : Holds is (some .null) none
  | value {value : Json} {x : α} (same : is value x) : Holds is (some value) (some x)

/-- Whether three parts, of which only the first is required, are those of a mapping. -/
structure HasParts (containerPort transport nodePort : Option Json) (mapping : PortMapping) :
    Prop where
  containerPort : ∃ value, containerPort = some value ∧ IsPort value mapping.containerPort
  transport : Holds (fun value name => value = .text name) transport mapping.transport
  nodePort : Holds IsPort nodePort mapping.nodePort

/-- Whether a value describes a mapping: an object has its parts as fields, and an array has up to
three of them in their order. -/
inductive Describes : Json → PortMapping → Prop where
  | object {fields : List (String × Json)} {mapping : PortMapping}
    (parts : HasParts (Entries.find? "container_port" fields) (Entries.find? "protocol" fields)
      (Entries.find? "node_port" fields) mapping) : Describes (.object fields) mapping
  | array {items : List Json} {mapping : PortMapping} (short : items.length ≤ 3)
    (parts : HasParts items[0]? items[1]? items[2]? mapping) : Describes (.array items) mapping

/-- Whether a value lists mappings: it is an array in which each item describes one. -/
inductive Lists : Json → List PortMapping → Prop where
  | array {items : List Json} {mappings : List PortMapping}
    (each : List.Forall₂ Describes items mappings) : Lists (.array items) mappings

/-- A port is read from a port number and from nothing else. -/
theorem port?_eq_some_iff {value : Json} {port : Nat} :
    port? value = some port ↔ IsPort value port := by
  unfold IsPort
  cases value with
  | integer n =>
    -- The bound is spelled as a power over the integers where the value is read.
    have size : Int.pow 2 32 = (UInt32.size : Int) := rfl
    simp only [port?, size, Json.integer.injEq, Option.ite_none_right_eq_some, Option.some.injEq]
    omega
  | null | bool | real | text | array | object => simp [port?]

/-- A port that may be absent is read from a part that holds one. -/
theorem optionalPort?_eq_some_iff {value : Option Json} {port : Option Nat} :
    optionalPort? value = some port ↔ Holds IsPort value port := by
  constructor
  · intro read
    -- Null and a missing part both count as absent, and only a number is left to read.
    match value with
    | none | some .null => cases read; constructor
    | some (.integer n) =>
      obtain ⟨n, held, rfl⟩ := Option.map_eq_some_iff.mp read
      exact .value (port?_eq_some_iff.mp held)
    | some (.bool _) | some (.real _) | some (.text _) | some (.array _) | some (.object _) =>
      simp [optionalPort?, port?] at read
  · rintro (_ | _ | ⟨rfl, small⟩)
    · -- What holds an absent port is missing or null, and both are read as nothing.
      rfl
    · rfl
    · simp [optionalPort?, port?_eq_some_iff.mpr ⟨rfl, small⟩]

/-- A name that may be absent is read from a part that holds one. -/
theorem optionalText?_eq_some_iff {value : Option Json} {name : Option String} :
    optionalText? value = some name ↔ Holds (fun value name => value = .text name) value name := by
  constructor
  · intro read
    -- A name of its own kind is kept as it is, and no other kind counts as one.
    match value with
    | none | some .null => cases read; constructor
    | some (.text raw) => cases read; exact .value rfl
    | some (.bool _) | some (.real _) | some (.integer _) | some (.array _) | some (.object _) =>
      simp [optionalText?] at read
  · rintro (_ | _ | ⟨rfl⟩) <;> rfl

/-- A mapping is read from its parts. -/
theorem ofParts?_eq_some_iff {containerPort transport nodePort : Option Json}
    {mapping : PortMapping} :
    ofParts? containerPort transport nodePort = some mapping ↔
      HasParts containerPort transport nodePort mapping := by
  obtain ⟨port, name, node⟩ := mapping
  -- Each part is read apart from the others, by the three lemmas above.
  simp only [ofParts?, Option.bind_eq_bind, Option.bind_eq_some_iff, Option.pure_def,
    Option.some.injEq, mk.injEq, port?_eq_some_iff, optionalText?_eq_some_iff,
    optionalPort?_eq_some_iff]
  constructor
  · rintro ⟨_, required, _, named, _, placed, rfl, rfl, rfl⟩
    exact ⟨required, named, placed⟩
  · rintro ⟨required, named, placed⟩
    exact ⟨_, required, _, named, _, placed, rfl, rfl, rfl⟩

/-- A mapping is read from exactly the values that describe it. -/
theorem ofJson?_eq_some_iff {value : Json} {mapping : PortMapping} :
    ofJson? value = some mapping ↔ Describes value mapping := by
  constructor
  · intro read
    match value with
    -- An object gives its parts by name, and an array by position, up to three.
    | .object fields => exact .object (ofParts?_eq_some_iff.mp read)
    | .array [a] | .array [a, b] | .array [a, b, c] =>
      exact .array (by simp) (ofParts?_eq_some_iff.mp read)
    -- An array that is empty lacks the required port, and one of four has a part too many.
    | .array [] | .array (_ :: _ :: _ :: _ :: _) => simp [ofJson?] at read
    | .null | .bool _ | .integer _ | .real _ | .text _ => simp [ofJson?] at read
  · rintro (parts | ⟨short, parts⟩)
    · exact ofParts?_eq_some_iff.mpr parts
    · rename_i items
      match items with
      -- The array is as long as its parts say, so its items are the ones that are read.
      | [a] | [a, b] | [a, b, c] => exact ofParts?_eq_some_iff.mpr parts
      | [] =>
        -- An empty array has no item where the port has to be.
        obtain ⟨_, present, -⟩ := parts.containerPort
        simp at present
      | _ :: _ :: _ :: _ :: _ =>
        simp only [List.length_cons] at short
        omega

/-- A list is read all together exactly if each of its elements is, in their order. -/
theorem mapM_eq_some_iff {α β : Type} {read : α → Option β} {xs : List α} {ys : List β} :
    xs.mapM read = some ys ↔ List.Forall₂ (fun x y => read x = some y) xs ys := by
  -- The list of results is taken apart in step with the list that is read.
  induction xs generalizing ys with
  | nil => simp [eq_comm]
  | cons x rest ih =>
    simp only [List.mapM_cons, Option.bind_eq_bind, Option.bind_eq_some_iff, Option.pure_def,
      Option.some.injEq, List.forall₂_cons_left_iff, ih]
    constructor
    · -- Both sides name the first result and the others, in another order.
      rintro ⟨y, first, others, following, rfl⟩
      exact ⟨y, others, first, following, rfl⟩
    · rintro ⟨y, others, first, following, rfl⟩
      exact ⟨y, first, others, following, rfl⟩

/-- Mappings are read from exactly the values that list them. -/
theorem listOfJson?_eq_some_iff {value : Json} {mappings : List PortMapping} :
    listOfJson? value = some mappings ↔ Lists value mappings := by
  cases value with
  | array items =>
    -- Only an array can list mappings, and the items are read in one pass.
    simp only [listOfJson?, mapM_eq_some_iff, ofJson?_eq_some_iff]
    constructor
    · exact .array
    · rintro ⟨each⟩
      exact each
  | null | bool | integer | real | text | object =>
    -- Every other kind of value is refused as a whole.
    simp only [listOfJson?, reduceCtorEq, false_iff]
    rintro ⟨⟩

end StackPanel.PortMapping

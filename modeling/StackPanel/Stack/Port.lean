import StackPanel.Json.Printer

/-! Port mappings of a running stack, and how a card lists them. -/

namespace StackPanel

/-- One port of a stack's container and where it is reached on the node. -/
structure PortMapping where
  /-- The port inside the container. -/
  containerPort : Nat
  /-- The transport protocol, if one is given. -/
  transport : Option String
  /-- The port on the node, if one is assigned. -/
  nodePort : Option Nat
  deriving DecidableEq

namespace PortMapping

/-- A whole number of 32 bits. -/
def port? : Json → Option Nat
  | .integer value => if 0 ≤ value ∧ value < Int.pow 2 32 then some value.toNat else none
  | _ => none

/-- A port that may be absent or null. -/
def optionalPort? : Option Json → Option (Option Nat)
  | none | some .null => some none
  | some value => (port? value).map some

/-- A name that may be absent or null. -/
def optionalText? : Option Json → Option (Option String)
  | none | some .null => some none
  | some (.text value) => some (some value)
  | some _ => none

/-- A mapping from its three parts, of which only the container port is required. -/
def ofParts? (containerPort transport nodePort : Option Json) : Option PortMapping := do
  let containerPort ← containerPort.bind port?
  let transport ← optionalText? transport
  let nodePort ← optionalPort? nodePort
  return { containerPort, transport, nodePort }

/-- A mapping from an object, or from an array that lists its parts in order. -/
def ofJson? : Json → Option PortMapping
  | .object fields =>
    ofParts? (Entries.find? "container_port" fields) (Entries.find? "protocol" fields)
      (Entries.find? "node_port" fields)
  | .array [a] => ofParts? (some a) none none
  | .array [a, b] => ofParts? (some a) (some b) none
  | .array [a, b, c] => ofParts? (some a) (some b) (some c)
  | _ => none

/-- The mappings of a whole list, if every element is one. -/
def listOfJson? : Json → Option (List PortMapping)
  | .array items => items.mapM ofJson?
  | _ => none

/-- A mapping as a card shows it, such as `80/TCP -> 31001`. -/
def label (mapping : PortMapping) : String :=
  let name := toString mapping.containerPort ++ "/" ++ mapping.transport.getD "TCP"
  match mapping.nodePort with
  | some port => name ++ " -> " ++ toString port
  | none => name

end PortMapping

end StackPanel

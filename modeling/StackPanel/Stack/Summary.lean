import StackPanel.Stack.Port
import StackPanel.Text.Quoted

/-! What the service tells about one stack, and how a list of stacks is read from JSON. -/

namespace StackPanel

/-- The service's view of one stack, in which everything may be absent. -/
structure StackSummary where
  /-- The id that names the stack in requests. -/
  stackId : String := ""
  /-- The namespace it runs in. -/
  space : Option String := none
  /-- Its pod. -/
  podId : Option String := none
  /-- Its service. -/
  serviceName : Option String := none
  /-- The node it runs on. -/
  nodeId : Option String := none
  /-- The public address of that node. -/
  nodePublicIp : Option String := none
  /-- Its port mappings, in whatever shape the service sent them. -/
  ports : Option Json := none
  /-- When it expires. -/
  ttlExpiresAt : Option String := none
  /-- When it was created. -/
  createdAt : Option String := none
  /-- When it last changed. -/
  updatedAt : Option String := none
  /-- The processor share it asked for, in thousandths. -/
  cpuMilli : Option Int := none
  /-- The memory it asked for. -/
  memoryBytes : Option Int := none
  /-- Its state. -/
  status : Option String := none

/-- What a reader of stacks looks for in a value. -/
inductive Expected where
  | text
  | integer
  | sequence
  | stackList
  | stackSummary
  deriving DecidableEq

/-- The name of what was looked for. -/
def Expected.name : Expected → String
  | .text => "a string"
  | .integer => "i64"
  | .sequence => "a sequence"
  | .stackList => "struct StackListBody"
  | .stackSummary => "struct StackSummary"

/-- Why a value is no list of stacks. -/
inductive DecodeError where
  /-- A value of the wrong kind. -/
  | wrongKind (found : Json) (expected : Expected)
  /-- A whole number that does not fit. -/
  | outOfRange (found : Int) (expected : Expected)
  /-- An array with more elements than there are fields. -/
  | tooManyElements (count : Nat)

/-- How a message calls a value. -/
def Json.kindName : Json → String
  | .null => "null"
  | .bool true => "boolean `true`"
  | .bool false => "boolean `false`"
  | .integer value => "integer `" ++ String.ofList (Decimal.ofInt value) ++ "`"
  | .real value => "floating point `" ++ String.ofList value.text ++ "`"
  | .text value => "string " ++ Text.quoted value
  | .array _ => "sequence"
  | .object _ => "map"

/-- The wording of a decoding error. -/
def DecodeError.message : DecodeError → String
  | .wrongKind found expected =>
    "invalid type: " ++ found.kindName ++ ", expected " ++ expected.name
  | .outOfRange found expected =>
    "invalid value: " ++ (Json.integer found).kindName ++ ", expected " ++ expected.name
  | .tooManyElements count =>
    "invalid length " ++ toString count ++ ", expected fewer elements in array"

namespace StackSummary

/-- Text that must be present. -/
def readText : Json → Except DecodeError String
  | .text value => .ok value
  | found => .error (.wrongKind found .text)

/-- Text that may be null. -/
def readOptionalText : Json → Except DecodeError (Option String)
  | .null => .ok none
  | value => (readText value).map some

/-- A whole number of 64 bits that may be null. -/
def readOptionalInteger : Json → Except DecodeError (Option Int)
  | .null => .ok none
  | .integer value =>
    if -Int.pow 2 63 ≤ value ∧ value < Int.pow 2 63 then .ok (some value)
    else .error (.outOfRange value .integer)
  | found => .error (.wrongKind found .integer)

/-- Any value at all, where null counts as absent. -/
def readAny : Json → Option Json
  | .null => none
  | value => some value

/-- Reads one field into a summary; a field of another name is passed over. -/
def readField (summary : StackSummary) (field : String × Json) :
    Except DecodeError StackSummary :=
  let value := field.2
  match field.1 with
  | "stack_id" => (readText value).map fun x => { summary with stackId := x }
  | "namespace" => (readOptionalText value).map fun x => { summary with space := x }
  | "pod_id" => (readOptionalText value).map fun x => { summary with podId := x }
  | "service_name" => (readOptionalText value).map fun x => { summary with serviceName := x }
  | "node_id" => (readOptionalText value).map fun x => { summary with nodeId := x }
  | "node_public_ip" => (readOptionalText value).map fun x => { summary with nodePublicIp := x }
  | "ports" => .ok { summary with ports := readAny value }
  | "ttl_expires_at" => (readOptionalText value).map fun x => { summary with ttlExpiresAt := x }
  | "created_at" => (readOptionalText value).map fun x => { summary with createdAt := x }
  | "updated_at" => (readOptionalText value).map fun x => { summary with updatedAt := x }
  | "requested_cpu_milli" => (readOptionalInteger value).map fun x => { summary with cpuMilli := x }
  | "requested_memory_bytes" =>
    (readOptionalInteger value).map fun x => { summary with memoryBytes := x }
  | "status" => (readOptionalText value).map fun x => { summary with status := x }
  | _ => .ok summary

/-- The field names in the order in which an array lists their values. -/
def fieldNames : List String :=
  ["stack_id", "namespace", "pod_id", "service_name", "node_id", "node_public_ip", "ports",
    "ttl_expires_at", "created_at", "updated_at", "requested_cpu_milli",
    "requested_memory_bytes", "status"]

/-- A summary from an object, or from an array of its values in order.
The first bad field is reported, in the order of the object's keys or of the array. -/
def ofJson : Json → Except DecodeError StackSummary
  | .object fields => fields.foldlM readField {}
  | .array items => do
    -- The values come before the count, so a bad value is reported first.
    let summary ← (fieldNames.zip items).foldlM readField {}
    if fieldNames.length < items.length then .error (.tooManyElements items.length)
    else .ok summary
  | found => .error (.wrongKind found .stackSummary)

/-- The list under the key of stacks, where null counts as empty. -/
def listOfItems : Json → Except DecodeError (List StackSummary)
  | .null => .ok []
  | .array items => items.mapM ofJson
  | found => .error (.wrongKind found .sequence)

/-- The stacks of a list body: an object that has them under `stacks`, or an array of that alone. -/
def listOfJson : Json → Except DecodeError (List StackSummary)
  | .object fields =>
    match Entries.find? "stacks" fields with
    | none => .ok []
    | some items => listOfItems items
  | .array [] => .ok []
  | .array (items :: rest) => do
    let summaries ← listOfItems items
    if rest.isEmpty then .ok summaries else .error (.tooManyElements (rest.length + 1))
  | found => .error (.wrongKind found .stackList)

/-- The wording when a response is no list of stacks. -/
def listMessage (error : DecodeError) : String :=
  "unexpected stack list payload: " ++ error.message

/-- The port mappings of a stack, if it has some in a known shape. -/
def portMappings? (summary : StackSummary) : Option (List PortMapping) :=
  summary.ports.bind PortMapping.listOfJson?

end StackSummary

end StackPanel

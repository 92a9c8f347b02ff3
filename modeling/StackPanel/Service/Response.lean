import StackPanel.Json.Reader
import StackPanel.Service.Request
import StackPanel.Text.Blank

/-! What comes back from the service, and why a call can fail. -/

namespace StackPanel

/-- The body of a response. -/
inductive ResponseBody where
  | json (value : Json)
  | text (raw : String)

namespace ResponseBody

/-- An empty body is an empty object, JSON is read, and anything else is kept as it is. -/
def parse (raw : String) : ResponseBody :=
  if raw.isEmpty then .json (.object [])
  else match Json.parse? raw with
    | some value => .json value
    | none => .text raw

/-- The JSON value of a body. -/
def json? : ResponseBody → Option Json
  | .json value => some value
  | .text _ => none

/-- The body as part of a record. -/
def toJson : ResponseBody → Json
  | .json value => value
  | .text raw => .text raw

/-- The id under `stack_id` at the top of a JSON body, trimmed, unless it is blank. -/
def stackId? (body : ResponseBody) : Option String :=
  match (body.json?.bind (·.field? "stack_id")).bind Json.text? with
  | some id => if Text.blank id then none else some (Text.trim id)
  | none => none

end ResponseBody

/-- A response with the request it answers. -/
structure Payload where
  /-- The method of the request. -/
  method : Method
  /-- The address of the request. -/
  url : String
  /-- The status of the response. -/
  status : Nat
  /-- Whether the status means success. -/
  ok : Bool
  /-- The body of the response. -/
  body : ResponseBody

/-- A payload as the console records it. -/
def Payload.record (payload : Payload) : Json :=
  .object [
    ("body", payload.body.toJson),
    ("method", .text payload.method.name),
    ("ok", .bool payload.ok),
    ("status", .integer payload.status),
    ("url", .text payload.url)]

/-- Why an action ended without a result. -/
inductive ActionError where
  /-- An input was refused before any request. -/
  | validation (message : String)
  /-- No response was obtained. -/
  | transport (message : String)
  /-- The service answered with a status that is no success. -/
  | response (payload : Payload)
  /-- The action itself failed. -/
  | internal (message : String)

/-- The kinds of errors that the console tells apart. -/
inductive ErrorKind where
  | validation
  | transport
  | response
  | internal
  deriving DecidableEq

/-- The name of a kind. -/
def ErrorKind.label : ErrorKind → String
  | .validation => "validation"
  | .transport => "transport"
  | .response => "response"
  | .internal => "internal"

namespace ActionError

/-- The kind of an error. -/
def kind : ActionError → ErrorKind
  | .validation _ => .validation
  | .transport _ => .transport
  | .response _ => .response
  | .internal _ => .internal

/-- An error in one line. -/
def message : ActionError → String
  | .validation message => message
  | .transport message => message
  | .response payload =>
    payload.method.name ++ " " ++ payload.url ++ " returned " ++ toString payload.status
  | .internal message => message

/-- An error as the console records it: a response whole, and anything else by its message. -/
def record : ActionError → Json
  | .response payload => payload.record
  | error => .object [("error", .text error.message)]

end ActionError

end StackPanel

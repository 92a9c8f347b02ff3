import StackPanel.Json.Printer
import StackPanel.Service.Connection

/-! Calls of the service and the requests they become. -/

namespace StackPanel

/-- The methods that calls use. -/
inductive Method where
  | get
  | post
  | delete
  deriving DecidableEq

/-- The name of a method in requests. -/
def Method.name : Method → String
  | .get => "GET"
  | .post => "POST"
  | .delete => "DELETE"

/-- A call as an action describes it: its path is relative to the base address. -/
structure Call where
  /-- The method. -/
  method : Method
  /-- The path below the base address. -/
  path : String
  /-- The body, if there is one. -/
  body : Option Json

/-- A call that reads. -/
def Call.get (path : String) : Call :=
  { method := .get, path, body := none }

/-- A call that removes. -/
def Call.delete (path : String) : Call :=
  { method := .delete, path, body := none }

/-- A call that sends a body. -/
def Call.post (path : String) (body : Json) : Call :=
  { method := .post, path, body := some body }

/-- A request as it is sent. -/
structure Request where
  /-- The method. -/
  method : Method
  /-- The complete address. -/
  url : String
  /-- Header names and values in order. -/
  headers : List (String × String)
  /-- The text of the body, if there is one. -/
  body : Option String
  deriving DecidableEq

/-- The header that carries the key. -/
def apiKeyHeader : String := "X-API-KEY"

/-- The headers of a call: the key if it is to be sent, and the kind of the body if there is one. -/
def Call.headers (call : Call) (connection : Connection) : List (String × String) :=
  (connection.apiKey.toList.map fun key => (apiKeyHeader, key)) ++
    if call.body.isSome then [("Content-Type", "application/json")] else []

/-- The request that a call becomes over a connection. -/
def Call.request (call : Call) (connection : Connection) : Request :=
  { method := call.method
    url := Connection.joinUrl connection.baseUrl call.path
    headers := call.headers connection
    body := call.body.map Json.compact }

end StackPanel

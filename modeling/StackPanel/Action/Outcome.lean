import StackPanel.Action.Basic
import StackPanel.Create.Request
import StackPanel.Service.Exchange
import StackPanel.Stack.Summary

/-! What an action works on and what it leads to. -/

namespace StackPanel

/-- The inputs of an action as they were when it started. -/
structure ActionContext where
  /-- Where its requests go. -/
  connection : Connection
  /-- The stack id that was typed. -/
  stackId : String
  /-- The stack that the control behind it carries. -/
  target : Option String
  /-- The ports that were typed. -/
  targetPort : String
  /-- The pod description that was typed. -/
  podSpec : String
  /-- The shape in which ports are sent. -/
  encoding : PortEncoding
  deriving DecidableEq

/-- The result of an action. -/
structure ActionOutput where
  /-- What the console records. -/
  record : Json
  /-- The id of a stack that was created. -/
  createdStackId : Option String

/-- A fetched list of stacks, or why it could not be read. -/
abbrev Listing := Except String (List StackSummary)

/-- How an action ended. -/
structure ActionOutcome where
  /-- Its result or its error. -/
  result : Except ActionError ActionOutput
  /-- The list it fetched, if it fetched one. -/
  listing : Option Listing

/-- An action that has ended. -/
structure Completion where
  /-- The action. -/
  id : ActionId
  /-- The title of its records. -/
  title : String
  /-- How it ended. -/
  outcome : ActionOutcome

namespace ActionOutcome

/-- An action that ended in an error before it fetched anything. -/
def failed (error : ActionError) : ActionOutcome :=
  { result := .error error, listing := none }

/-- An action refused because of an input. -/
def refused (error : InputError) : ActionOutcome :=
  failed (.validation error.message)

/-- The result that records one payload. -/
def recorded (payload : Payload) : ActionOutput :=
  { record := payload.record, createdStackId := none }

/-- The list in the body of a response. -/
def listingOf (payload : Payload) : Listing :=
  match payload.body with
  | .json body =>
    match StackSummary.listOfJson body with
    | .ok summaries => .ok summaries
    | .error error => .error (StackSummary.listMessage error)
  | .text _ => .error "stack list response was not JSON"

/-- The list that a call fetched, if it succeeded. -/
def fetched : Except ActionError Payload → Option Listing
  | .ok payload => some (listingOf payload)
  | .error _ => none

/-- The outcome of an action that is one call. -/
def single (result : Except ActionError Payload) : ActionOutcome :=
  { result := result.map recorded, listing := none }

/-- The outcome of an action that fetches the list. -/
def listed (result : Except ActionError Payload) : ActionOutcome :=
  { result := result.map recorded, listing := fetched result }

/-- The outcome of a removal and the fetch after it: the first error counts, and the list comes
from the fetch whatever became of the removal. -/
def removed (removal fetch : Except ActionError Payload) : ActionOutcome :=
  { result :=
      match removal, fetch with
      | .ok deleted, .ok refreshed =>
        .ok {
          record := .object [("delete", deleted.record), ("refresh", refreshed.record)]
          createdStackId := none }
      | .error error, _ => .error error
      | .ok _, .error error => .error error
    listing := fetched fetch }

/-- The outcome of a creation, which passes on the id that the service gave. -/
def created (result : Except ActionError Payload) : ActionOutcome :=
  { result := result.map fun payload =>
      { record := payload.record, createdStackId := payload.body.stackId? }
    listing := none }

end ActionOutcome

end StackPanel

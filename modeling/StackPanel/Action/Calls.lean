import StackPanel.Action.Outcome
import StackPanel.Stack.Id

/-! The calls that each action makes. -/

namespace StackPanel.ActionCalls

/-- An action whose single call needs no input. -/
def read (path : String) (context : ActionContext) : Exchange ActionOutcome :=
  ((Call.get path).perform context.connection).map .single

/-- Fetches the list of stacks. -/
def list (context : ActionContext) : Exchange ActionOutcome :=
  ((Call.get "/stacks").perform context.connection).map .listed

/-- An action whose single call is about the stack that was typed. -/
def onStack (call : String → Call) (context : ActionContext) : Exchange ActionOutcome :=
  match StackId.validate context.stackId with
  | .ok id => ((call id).perform context.connection).map .single
  | .error error => .done (.refused error)

/-- The path of one stack. -/
def stackPath (id : String) : String :=
  "/stacks/" ++ id

/-- Removes the stack that the control carries and then fetches the list in any case. -/
def removeItem (context : ActionContext) : Exchange ActionOutcome :=
  match StackId.validate (context.target.getD "") with
  | .error error => .done (.refused error)
  | .ok id =>
    -- The fetch does not depend on what became of the removal.
    ((Call.delete (stackPath id)).perform context.connection).bind fun removal =>
      ((Call.get "/stacks").perform context.connection).map fun fetch => .removed removal fetch

/-- Creates a stack from the form. -/
def create (context : ActionContext) : Exchange ActionOutcome :=
  match CreateRequest.build context.targetPort context.podSpec context.encoding with
  | .error error => .done (.refused error)
  | .ok request =>
    ((Call.post "/stacks" request.toJson).perform context.connection).map .created

end StackPanel.ActionCalls

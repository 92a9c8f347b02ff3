import StackPanel.Action.Calls
import StackPanel.Panel.Basic

/-! Starting actions one at a time and carrying them through. -/

namespace StackPanel

/-- What an action does. -/
inductive Handler where
  /-- Changes the panel at once. -/
  | immediate (change : Panel → Panel)
  /-- Makes requests, from the inputs as they were at the start. -/
  | remote (calls : ActionContext → Exchange ActionOutcome)

/-- The handlers of the actions. -/
structure Dispatcher where
  /-- The handler of an action, if it has one. -/
  handler? : ActionId → Option Handler

/-- An action that has started and whose requests are still to be made. -/
structure PendingAction where
  /-- The action. -/
  id : ActionId
  /-- The title of its records. -/
  title : String
  /-- How its requests follow from its inputs. -/
  calls : ActionContext → Exchange ActionOutcome
  /-- The inputs as they were when it started. -/
  context : ActionContext

namespace Dispatcher

/-- Clears the console. -/
def clearConsole (panel : Panel) : Panel :=
  { panel with console := .idle }

/-- The handlers of a new panel: every action has one, and only clearing the console is local. -/
def standard : Dispatcher where
  handler?
    | .health => some (.remote (ActionCalls.read "/healthz"))
    | .listStacks => some (.remote ActionCalls.list)
    | .stats => some (.remote (ActionCalls.read "/stats"))
    | .getStack => some (.remote (ActionCalls.onStack fun id => .get (ActionCalls.stackPath id)))
    | .getStatus =>
      some (.remote (ActionCalls.onStack fun id => .get (ActionCalls.stackPath id ++ "/status")))
    | .deleteStack =>
      some (.remote (ActionCalls.onStack fun id => .delete (ActionCalls.stackPath id)))
    | .refreshList => some (.remote ActionCalls.list)
    | .deleteItem => some (.remote ActionCalls.removeItem)
    | .createStack => some (.remote ActionCalls.create)
    | .clearConsole => some (.immediate clearConsole)

/-- Gives an action another handler, or none. -/
def register (dispatcher : Dispatcher) (id : ActionId) (handler : Option Handler) : Dispatcher where
  handler? other := if other = id then handler else dispatcher.handler? other

/-- Starts an action. While another one is under way nothing happens at all; a local action is
done at once, and a remote one takes the lock and is left to run. -/
def dispatch (dispatcher : Dispatcher) (panel : Panel) (now : Instant) (trigger : ActionTrigger) :
    Panel × Option PendingAction :=
  if panel.isBusy then (panel, none)
  else match dispatcher.handler? trigger.id with
    | none => (panel, none)
    | some (.immediate change) => (change panel, none)
    | some (.remote calls) =>
      let title := trigger.id.title
      (panel.begin now title,
        some { id := trigger.id, title, calls, context := panel.context trigger.target })

end Dispatcher

namespace PendingAction

/-- The requests of an action. -/
def exchange (pending : PendingAction) : Exchange ActionOutcome :=
  pending.calls pending.context

/-- The end of an action, where a handler that breaks down counts as an error of its own. -/
def completion (pending : PendingAction) (result : Option ActionOutcome) : Completion :=
  { id := pending.id
    title := pending.title
    outcome := result.getD (.failed (.internal (pending.id.name ++ " handler panicked"))) }

/-- Makes an action's requests against something that answers them. -/
def execute {σ : Type} (pending : PendingAction) (answer : σ → Request → Reply × σ) (state : σ) :
    Completion × Exchange.Run σ ActionOutcome :=
  let run := pending.exchange.run answer state
  (pending.completion run.result, run)

end PendingAction

/-- What carrying an action through leaves. -/
structure ActionRun (σ : Type) where
  /-- The panel afterwards. -/
  panel : Panel
  /-- Whether requests could have been made. -/
  wasRemote : Bool
  /-- The requests sent, in order. -/
  sent : List Request
  /-- The state of whatever answered them. -/
  final : σ

/-- Starts an action, makes its requests and shows how it ended, all in one go. -/
def Dispatcher.runAction {σ : Type} (dispatcher : Dispatcher) (panel : Panel) (now : Instant)
    (trigger : ActionTrigger) (answer : σ → Request → Reply × σ) (state : σ) : ActionRun σ :=
  match dispatcher.dispatch panel now trigger with
  | (panel, none) => { panel, wasRemote := false, sent := [], final := state }
  | (panel, some pending) =>
    let done := pending.execute answer state
    { panel := panel.complete now done.1
      wasRemote := true
      sent := done.2.sent
      final := done.2.final }

end StackPanel

/-! The actions an operator can start. -/

namespace StackPanel

/-- An action of the panel. -/
inductive ActionId where
  | health
  | listStacks
  | stats
  | getStack
  | getStatus
  | deleteStack
  | refreshList
  | deleteItem
  | createStack
  | clearConsole
  deriving DecidableEq

namespace ActionId

/-- All actions. -/
def all : List ActionId :=
  [.health, .listStacks, .stats, .getStack, .getStatus, .deleteStack, .refreshList, .deleteItem,
    .createStack, .clearConsole]

/-- The name of an action in messages. -/
def name : ActionId → String
  | .health => "health"
  | .listStacks => "listStacks"
  | .stats => "stats"
  | .getStack => "getStack"
  | .getStatus => "getStatus"
  | .deleteStack => "deleteStack"
  | .refreshList => "refreshList"
  | .deleteItem => "deleteItem"
  | .createStack => "create"
  | .clearConsole => "clearResponse"

/-- The title of an action's records. -/
def title : ActionId → String
  | .health => "GET /healthz"
  | .listStacks => "GET /stacks"
  | .stats => "GET /stats"
  | .getStack => "GET /stacks/\x7bstack_id\x7d"
  | .getStatus => "GET /stacks/\x7bstack_id\x7d/status"
  | .deleteStack => "DELETE /stacks/\x7bstack_id\x7d"
  | .refreshList => "GET /stacks (refresh)"
  | .deleteItem => "DELETE /stacks/\x7bstack_id\x7d + GET /stacks"
  | .createStack => "POST /stacks"
  | .clearConsole => "clear console"

end ActionId

/-- An action to start, with the id that the control behind it carries. -/
structure ActionTrigger where
  /-- The action. -/
  id : ActionId
  /-- The stack it is aimed at, for controls that belong to one. -/
  target : Option String := none
  deriving DecidableEq

end StackPanel

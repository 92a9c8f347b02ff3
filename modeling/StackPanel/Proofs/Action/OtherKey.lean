import StackPanel.Action.Dispatcher
import StackPanel.Proofs.Service.Exchange

/-! Actions over connections that differ in the key alone: they send the same requests but for the
header of the key, and end in the same outcome. -/

namespace StackPanel

/-- A request without the header of the key. -/
def Request.withoutKey (request : Request) : Request :=
  { request with headers := request.headers.filter fun header => header.1 ≠ apiKeyHeader }

namespace Exchange

variable {α β : Type}

/-- Whether two exchanges send the same requests but for the header of the key, and have the same
results, as long as they get the same replies. -/
inductive AgreesButKey : Exchange α → Exchange α → Prop where
  | done (result : α) : AgreesButKey (.done result) (.done result)
  | send {first second : Request} {next other : Reply → Exchange α}
    (same : first.withoutKey = second.withoutKey)
    (later : ∀ reply, AgreesButKey (next reply) (other reply)) :
    AgreesButKey (.send first next) (.send second other)
  | crash : AgreesButKey .crash .crash

namespace AgreesButKey

variable {first second : Exchange α}

/-- Exchanges that agree do so together with ways to go on that do. -/
theorem bind (agrees : first.AgreesButKey second) {next other : α → Exchange β}
    (later : ∀ result, (next result).AgreesButKey (other result)) :
    (first.bind next).AgreesButKey (second.bind other) := by
  -- The second part takes the place of each end of the first.
  induction agrees with
  | done result => exact later result
  | send same _ ih => exact .send same ih
  | crash => exact .crash

/-- Changing the results of exchanges that agree leaves them in agreement. -/
theorem map (agrees : first.AgreesButKey second) (change : α → β) :
    (first.map change).AgreesButKey (second.map change) :=
  -- The results are changed at the ends alone.
  agrees.bind fun result => .done (change result)

/-- With the same replies exchanges that agree have the same transcript but for the key. -/
theorem transcript (agrees : first.AgreesButKey second) :
    ∀ replies,
      (first.transcript scripted replies).map (fun sent => (sent.1.withoutKey, sent.2)) =
        (second.transcript scripted replies).map fun sent => (sent.1.withoutKey, sent.2) := by
  -- On the requests in turn, each of which uses up one of the replies.
  induction agrees with
  | done result => intro replies; rfl
  | crash => intro replies; rfl
  | @send one another next other same _ ih =>
    intro replies
    -- The script answers without regard to the request.
    have reply : scripted replies one = scripted replies another := rfl
    simp only [Exchange.transcript, reply, List.map_cons, ih, same]

/-- With the same replies exchanges that agree end in the same result. -/
theorem result (agrees : first.AgreesButKey second) :
    ∀ replies, (first.run scripted replies).result = (second.run scripted replies).result := by
  -- As above, the requests have no part in the replies.
  induction agrees with
  | done result => intro replies; rfl
  | crash => intro replies; rfl
  | @send one another next other same _ ih =>
    intro replies
    have reply : scripted replies one = scripted replies another := rfl
    simp only [run, reply, ih]

end AgreesButKey

end Exchange

/-- A connection with another key, or without one. -/
def Connection.withKey (connection : Connection) (apiKey : Option String) : Connection :=
  { connection with apiKey }

/-- The inputs of an action with another key. -/
def ActionContext.withKey (context : ActionContext) (apiKey : Option String) : ActionContext :=
  { context with connection := context.connection.withKey apiKey }

namespace Call

variable (call : Call) (connection : Connection) (apiKey : Option String)

/-- Another key is seen in no part of a request but its header. -/
theorem request_withKey :
    (call.request connection).withoutKey =
      (call.request (connection.withKey apiKey)).withoutKey := by
  -- What is left of the headers tells whether there is a body.
  have erased : ∀ connection : Connection,
      (call.headers connection).filter (fun header => header.1 ≠ apiKeyHeader) =
        if call.body.isSome then [("Content-Type", "application/json")] else [] := by
    intro connection
    unfold headers
    -- Of the two headers that there can be only the other one is left.
    cases connection.apiKey <;> cases call.body <;> simp [apiKeyHeader]
  simp only [Request.withoutKey, request, erased]
  rfl

/-- The outcome of a reply holds the method and the address of its request, and no header. -/
theorem outcome_withKey (reply : Reply) :
    outcome (call.request connection) reply =
      outcome (call.request (connection.withKey apiKey)) reply := by
  -- A failure is reported by its message alone, and a response with the same method and address.
  cases reply <;> rfl

/-- A call over a connection with another key agrees with what it was. -/
theorem perform_agrees :
    (call.perform connection).AgreesButKey (call.perform (connection.withKey apiKey)) := by
  refine .send (call.request_withKey connection apiKey) fun reply => ?_
  -- Both calls go on with one outcome.
  rw [call.outcome_withKey connection apiKey]
  exact .done _

end Call

namespace ActionCalls

variable (context : ActionContext) (apiKey : Option String)

/-- An action that reads from one place agrees with itself over another key. -/
theorem read_agrees (path : String) :
    (read path context).AgreesButKey (read path (context.withKey apiKey)) :=
  (Call.perform_agrees _ context.connection apiKey).map _

/-- The fetch of the list agrees with itself over another key. -/
theorem list_agrees : (list context).AgreesButKey (list (context.withKey apiKey)) :=
  (Call.perform_agrees _ context.connection apiKey).map _

/-- An action on the typed stack agrees with itself over another key. -/
theorem onStack_agrees (call : String → Call) :
    (onStack call context).AgreesButKey (onStack call (context.withKey apiKey)) := by
  -- Whether the id is accepted has nothing to do with the key.
  simp only [onStack, ActionContext.withKey]
  cases StackId.validate context.stackId with
  | error error => exact .done _
  | ok id => exact (Call.perform_agrees _ context.connection apiKey).map _

/-- The removal of an item agrees with itself over another key. -/
theorem removeItem_agrees :
    (removeItem context).AgreesButKey (removeItem (context.withKey apiKey)) := by
  simp only [removeItem, ActionContext.withKey]
  -- The list is fetched again whatever became of the removal.
  cases StackId.validate (context.target.getD "") with
  | error error => exact .done _
  | ok id =>
    -- Both requests are over one connection.
    exact (Call.perform_agrees _ context.connection apiKey).bind fun removal =>
      (Call.perform_agrees _ context.connection apiKey).map _

/-- The creation of a stack agrees with itself over another key. -/
theorem create_agrees : (create context).AgreesButKey (create (context.withKey apiKey)) := by
  -- The body is built from what was typed, without the key.
  simp only [create, ActionContext.withKey]
  cases CreateRequest.build context.targetPort context.podSpec context.encoding with
  | error error => exact .done _
  | ok request => exact (Call.perform_agrees _ context.connection apiKey).map _

end ActionCalls

/-- Every action of the table agrees with itself over another key. -/
theorem Dispatcher.standard_agrees {id : ActionId}
    {calls : ActionContext → Exchange ActionOutcome}
    (handled : standard.handler? id = some (.remote calls)) (context : ActionContext)
    (apiKey : Option String) :
    (calls context).AgreesButKey (calls (context.withKey apiKey)) := by
  -- The table is read row by row, and only the clearing of the console has no requests.
  cases id
    <;> simp only [standard, Option.some.injEq, Handler.remote.injEq, reduceCtorEq] at handled
    <;> subst handled
  case health | stats => exact ActionCalls.read_agrees context apiKey _
  case listStacks | refreshList => exact ActionCalls.list_agrees context apiKey
  case getStack | getStatus | deleteStack => exact ActionCalls.onStack_agrees context apiKey _
  case deleteItem => exact ActionCalls.removeItem_agrees context apiKey
  case createStack => exact ActionCalls.create_agrees context apiKey

/-- Whether two started actions are the same to the operator, and agree in their requests. -/
structure PendingAction.AgreesButKey (first second : PendingAction) : Prop where
  id : first.id = second.id
  title : first.title = second.title
  exchange : first.exchange.AgreesButKey second.exchange

/-- With the same replies actions that agree end in the same way. -/
theorem PendingAction.AgreesButKey.completion {first second : PendingAction}
    (agrees : first.AgreesButKey second) (replies : List Reply) :
    (first.execute Exchange.scripted replies).1 = (second.execute Exchange.scripted replies).1 := by
  -- The id and the title are those of the action, and the result is that of its requests.
  simp only [execute, PendingAction.completion, agrees.id, agrees.title,
    agrees.exchange.result replies]

end StackPanel

import StackPanel.Proofs.Action.Report

/-! Every action of the panel ends in an outcome that reports what its requests brought. -/

namespace StackPanel

variable {σ : Type} (answer : σ → Request → Reply × σ) (state : σ)

/-- An exchange ends in an outcome that reports its transcript. -/
def Exchange.EndsReporting (exchange : Exchange ActionOutcome) (connection : Connection)
    (fetch? : Option Nat) : Prop :=
  ∃ outcome, (exchange.run answer state).result = some outcome ∧
    outcome.Reports connection fetch? (exchange.transcript answer state)

/-- Whether a request can bring nothing that an outcome has to report. -/
def Connection.IsSilent (connection : Connection) (request : Request) : Prop :=
  ¬connection.IsListFetch request ∧ request.method ≠ .post

namespace ActionOutcome

/-- The outcome of one request that is neither a fetch nor a creation has nothing to report. -/
theorem reports_single {connection : Connection} {request : Request}
    (silent : connection.IsSilent request) (reply : Reply) :
    (single (Call.outcome request reply)).Reports connection none [(request, reply)] where
  fetches position sent found := by
    -- The only request is at the first position, and it is no fetch.
    rcases position with _ | position <;> simp at found
    simpa [← found] using silent.1
  stackList panel := by
    simp [single, Panel.showListing, Connection.listBody?, silent.1]
  createdId := by
    -- Neither a payload nor an error of such a request carries an id.
    cases Call.outcome request reply <;>
      simp [single, createdId?, StackPanel.createdId?, recorded, Except.map, silent.2]

/-- The outcome of a fetch reports what it brought. -/
theorem reports_listed {connection : Connection} {request : Request}
    (fetches : connection.IsListFetch request) (reply : Reply) :
    (listed (Call.outcome request reply)).Reports connection (some 0) [(request, reply)] where
  fetches position sent found := by
    -- The only request is at the first position, and it is the fetch.
    rcases position with _ | position <;> simp at found
    simpa [← found] using fetches
  stackList panel := by
    have shown := panel.showListing_fetched request reply
    cases answered : reply.successText? <;>
      simpa [listed, Connection.listBody?, fetches, answered] using shown
  createdId := by
    -- A fetch is no order, so it gives no id.
    have notPost : request.method ≠ .post := by simp [fetches.1]
    cases Call.outcome request reply <;>
      simp [listed, createdId?, StackPanel.createdId?, recorded, Except.map, notPost]

/-- The outcome of a removal and a fetch reports what the fetch brought. -/
theorem reports_removed {connection : Connection} {removal fetch : Request}
    (silent : connection.IsSilent removal) (fetches : connection.IsListFetch fetch)
    (first second : Reply) :
    (removed (Call.outcome removal first) (Call.outcome fetch second)).Reports connection (some 1)
      [(removal, first), (fetch, second)] where
  fetches position sent found := by
    -- Of the two requests the second is the fetch.
    rcases position with _ | _ | position <;> simp at found
    · simpa [← found] using silent.1
    · simpa [← found] using fetches
  stackList panel := by
    -- The reply to the removal has no part in what is shown.
    have shown := panel.showListing_fetched fetch second
    cases answered : second.successText? <;>
      simpa [removed, Connection.listBody?, silent.1, fetches, answered] using shown
  createdId := by
    -- Neither request is an order, whatever came back.
    have notPost : fetch.method ≠ .post := by simp [fetches.1]
    cases Call.outcome removal first <;> cases Call.outcome fetch second <;>
      simp [removed, createdId?, StackPanel.createdId?, silent.2, notPost]

/-- The outcome of an order reports the id that the service gave. -/
theorem reports_created (connection : Connection) {request : Request}
    (orders : request.method = .post) (reply : Reply) :
    (created (Call.outcome request reply)).Reports connection none [(request, reply)] where
  fetches position sent found := by
    -- An order is sent by another method than a fetch, even to the same place.
    rcases position with _ | position <;> simp at found
    simp [← found, Connection.IsListFetch, orders]
  stackList panel := by
    have notFetch : ¬connection.IsListFetch request := by simp [Connection.IsListFetch, orders]
    simp [created, Panel.showListing, Connection.listBody?, notFetch]
  createdId := by
    -- A success passes on the id in the body, and a failure none.
    cases answered : reply.successText? with
    | none =>
      obtain ⟨error, failed⟩ := Call.outcome_of_failure request answered
      simp [created, createdId?, StackPanel.createdId?, Except.map, failed, answered]
    | some text =>
      obtain ⟨status, succeeded⟩ := Call.outcome_of_success request answered
      cases given : (ResponseBody.parse text).stackId? <;>
        simp [created, createdId?, StackPanel.createdId?, Except.map, succeeded, answered, orders,
          Call.payload, given]

/-- An action that is refused sends nothing and so has nothing to report. -/
theorem reports_refused (connection : Connection) (fetch? : Option Nat) (error : InputError) :
    (refused error).Reports connection fetch? [] where
  fetches position sent found := by simp at found
  stackList panel := by simp [refused, failed, Panel.showListing]
  createdId := by simp [refused, failed, createdId?]

end ActionOutcome

namespace ActionCalls

/-- Reading from any place but the list has nothing to report. -/
theorem read_endsReporting {path : String} (context : ActionContext)
    (elsewhere : path.toList.dropWhile (· = '/') ≠ "stacks".toList) :
    (read path context).EndsReporting answer state context.connection none := by
  have silent : context.connection.IsSilent ((Call.get path).request context.connection) := by
    -- Two addresses on one base are the same only for the same place.
    refine ⟨fun fetches => ?_, by simp [Call.get, Call.request]⟩
    exact elsewhere (Connection.joinUrl_inj.mp fetches.2)
  exact ⟨_, rfl, ActionOutcome.reports_single silent _⟩

/-- Fetching the list reports what it brought. -/
theorem list_endsReporting (context : ActionContext) :
    (list context).EndsReporting answer state context.connection (some 0) := by
  have fetches : context.connection.IsListFetch
      ((Call.get "/stacks").request context.connection) := ⟨rfl, rfl⟩
  exact ⟨_, rfl, ActionOutcome.reports_listed fetches _⟩

/-- The path of one stack is never the path of the list. -/
theorem stackPath_elsewhere (id rest : String) :
    (stackPath id ++ rest).toList.dropWhile (· = '/') ≠ "stacks".toList := by
  -- After the word that both share, only the path of a stack goes on with a slash.
  have split : (stackPath id ++ rest).toList =
      "/stacks".toList ++ '/' :: (id.toList ++ rest.toList) := by
    simp [stackPath]
  rw [split]
  simp

/-- An action on one stack has nothing to report, whether or not its id is accepted. -/
theorem onStack_endsReporting {call : String → Call} (context : ActionContext)
    (silent : ∀ id, context.connection.IsSilent ((call id).request context.connection)) :
    (onStack call context).EndsReporting answer state context.connection none := by
  unfold onStack
  cases StackId.validate context.stackId with
  | error error => exact ⟨_, rfl, ActionOutcome.reports_refused _ _ error⟩
  | ok id => exact ⟨_, rfl, ActionOutcome.reports_single (silent id) _⟩

/-- Removing an item reports what the fetch after it brought. -/
theorem removeItem_endsReporting (context : ActionContext) :
    (removeItem context).EndsReporting answer state context.connection (some 1) := by
  -- A target that is refused leads to no request, and so not even to the fetch.
  unfold removeItem
  cases StackId.validate (context.target.getD "") with
  | error error => exact ⟨_, rfl, ActionOutcome.reports_refused _ _ error⟩
  | ok id =>
    -- The removal differs from a fetch by its method, and the fetch after it is one by definition.
    have silent : context.connection.IsSilent
        ((Call.delete (stackPath id)).request context.connection) := by
      simp [Connection.IsSilent, Connection.IsListFetch, Call.delete, Call.request]
    have fetches : context.connection.IsListFetch
        ((Call.get "/stacks").request context.connection) := ⟨rfl, rfl⟩
    exact ⟨_, rfl, ActionOutcome.reports_removed silent fetches _ _⟩

/-- Creating a stack reports the id that it was given. -/
theorem create_endsReporting (context : ActionContext) :
    (create context).EndsReporting answer state context.connection none := by
  -- A form that is refused sends nothing at all.
  unfold create
  cases CreateRequest.build context.targetPort context.podSpec context.encoding with
  | error error => exact ⟨_, rfl, ActionOutcome.reports_refused _ _ error⟩
  | ok request => exact ⟨_, rfl, ActionOutcome.reports_created _ rfl _⟩

/-- A request to read about one stack is silent. -/
theorem get_isSilent (connection : Connection) (id rest : String) :
    connection.IsSilent ((Call.get (stackPath id ++ rest)).request connection) := by
  refine ⟨fun fetches => ?_, by simp [Call.get, Call.request]⟩
  exact stackPath_elsewhere id rest (Connection.joinUrl_inj.mp fetches.2)

end ActionCalls

/-- Every action with requests ends in an outcome that reports what they brought. -/
theorem Dispatcher.standard_endsReporting {id : ActionId}
    {calls : ActionContext → Exchange ActionOutcome}
    (handled : standard.handler? id = some (.remote calls)) (context : ActionContext) :
    (calls context).EndsReporting answer state context.connection id.fetchPosition? := by
  -- The table is read row by row, and only the clearing of the console has no requests.
  cases id
    <;> simp only [standard, Option.some.injEq, Handler.remote.injEq, reduceCtorEq] at handled
    <;> subst handled
  case health => exact ActionCalls.read_endsReporting answer state context (by simp)
  case listStacks => exact ActionCalls.list_endsReporting answer state context
  case stats => exact ActionCalls.read_endsReporting answer state context (by simp)
  -- The actions on one stack differ in what they ask about it, and none asks for the list.
  case getStack =>
    refine ActionCalls.onStack_endsReporting answer state context fun id => ?_
    simpa using ActionCalls.get_isSilent context.connection id ""
  case getStatus =>
    refine ActionCalls.onStack_endsReporting answer state context fun id => ?_
    exact ActionCalls.get_isSilent context.connection id "/status"
  case deleteStack =>
    refine ActionCalls.onStack_endsReporting answer state context fun id => ?_
    simp [Connection.IsSilent, Connection.IsListFetch, Call.delete, Call.request]
  case refreshList => exact ActionCalls.list_endsReporting answer state context
  case deleteItem => exact ActionCalls.removeItem_endsReporting answer state context
  case createStack => exact ActionCalls.create_endsReporting answer state context

end StackPanel

import StackPanel.Action.Dispatcher
import StackPanel.Proofs.Service.Exchange

/-! The headers and the body of every request that an action sends. -/

namespace StackPanel

/-- The header that carries a key, if there is one to send. -/
def Connection.keyHeader (connection : Connection) : List (String × String) :=
  connection.apiKey.toList.map fun key => (apiKeyHeader, key)

/-- Whether a request is made as a connection and its method ask for: the key is in a header if
there is one to send, and a body with the header of its kind is there exactly for an order. -/
structure Connection.Makes (connection : Connection) (request : Request) : Prop where
  headers : request.headers =
    connection.keyHeader ++
      if request.method = .post then [("Content-Type", "application/json")] else []
  body : request.body.isSome = true ↔ request.method = .post

/-- A call that has a body exactly if it is an order becomes a request as it should be. -/
theorem Call.makes_request {call : Call} (shaped : call.body.isSome = true ↔ call.method = .post)
    (connection : Connection) : connection.Makes (call.request connection) where
  headers := by
    -- The header of the body's kind goes with the body, and so with the method.
    by_cases order : call.method = .post
    · simp [request, Call.headers, Connection.keyHeader, order, shaped.mpr order]
    · have none : call.body.isSome = false := by simpa [order] using shaped
      simp [request, Call.headers, Connection.keyHeader, order, none]
  -- A request has the body of its call.
  body := by simpa [request] using shaped

/-- Whether a request over a connection is made as it should be, and is an order exactly if the
action creates a stack. -/
def Connection.Fits (connection : Connection) (action : ActionId) (request : Request) : Prop :=
  connection.Makes request ∧ (request.method = .post ↔ action = .createStack)

namespace ActionCalls

variable {action : ActionId} (context : ActionContext)

/-- A call that only reads or removes fits every action but the creation. -/
theorem fits_of_noBody {call : Call} (other : action ≠ .createStack) (method : call.method ≠ .post)
    (nothing : call.body = none) :
    context.connection.Fits action (call.request context.connection) := by
  -- Neither the call nor the action is an order, so both sides of each equivalence fail.
  have shaped : call.body.isSome = true ↔ call.method = .post := by simp [method, nothing]
  have order : (call.request context.connection).method = .post ↔ action = .createStack := by
    simp [other, method, Call.request]
  exact ⟨call.makes_request shaped _, order⟩

/-- An action that reads from one place sends requests that fit it. -/
theorem read_sends (other : action ≠ .createStack) (path : String) :
    (read path context).Sends (context.connection.Fits action) :=
  -- The call reads and has no body.
  (Call.sends_perform (fits_of_noBody context other (by simp [Call.get]) rfl)).map _

/-- An action that fetches the list sends requests that fit it. -/
theorem list_sends (other : action ≠ .createStack) :
    (list context).Sends (context.connection.Fits action) :=
  (Call.sends_perform (fits_of_noBody context other (by simp [Call.get]) rfl)).map _

/-- An action on the typed stack sends requests that fit it. -/
theorem onStack_sends (other : action ≠ .createStack) {call : String → Call}
    (noBody : ∀ id, (call id).method ≠ .post ∧ (call id).body = none) :
    (onStack call context).Sends (context.connection.Fits action) := by
  unfold onStack
  -- A refused id leads to no request at all.
  cases StackId.validate context.stackId with
  | error error => trivial
  | ok id =>
    exact (Call.sends_perform (fits_of_noBody context other (noBody id).1 (noBody id).2)).map _

/-- The removal of an item sends requests that fit it. -/
theorem removeItem_sends (other : action ≠ .createStack) :
    (removeItem context).Sends (context.connection.Fits action) := by
  unfold removeItem
  cases StackId.validate (context.target.getD "") with
  | error error => trivial
  | ok id =>
    -- The fetch follows whatever the removal brought.
    refine (Call.sends_perform ?_).bind fun removal => (Call.sends_perform ?_).map _
    · exact fits_of_noBody context other (by simp [Call.delete]) rfl
    · exact fits_of_noBody context other (by simp [Call.get]) rfl

/-- The creation of a stack sends an order. -/
theorem create_sends : (create context).Sends (context.connection.Fits .createStack) := by
  unfold create
  cases CreateRequest.build context.targetPort context.podSpec context.encoding with
  | error error => trivial
  | ok request =>
    -- An order is the one call that has a body.
    have shaped : (Call.post "/stacks" request.toJson).body.isSome = true ↔
        (Call.post "/stacks" request.toJson).method = .post := by simp [Call.post]
    refine (Call.sends_perform ⟨Call.makes_request shaped _, ?_⟩).map _
    simp [Call.post, Call.request]

end ActionCalls

/-- Every action sends only requests over its own connection that fit it. -/
theorem Dispatcher.standard_sends {action : ActionId}
    {calls : ActionContext → Exchange ActionOutcome}
    (handled : standard.handler? action = some (.remote calls)) (context : ActionContext) :
    (calls context).Sends (context.connection.Fits action) := by
  -- The table is read row by row, and only the clearing of the console has no requests.
  cases action
    <;> simp only [standard, Option.some.injEq, Handler.remote.injEq, reduceCtorEq] at handled
    <;> subst handled
  case health | stats => exact ActionCalls.read_sends context (by simp) _
  case listStacks | refreshList => exact ActionCalls.list_sends context (by simp)
  case getStack | getStatus =>
    exact ActionCalls.onStack_sends context (by simp) fun id => ⟨by simp [Call.get], rfl⟩
  case deleteStack =>
    exact ActionCalls.onStack_sends context (by simp) fun id => ⟨by simp [Call.delete], rfl⟩
  case deleteItem => exact ActionCalls.removeItem_sends context (by simp)
  case createStack => exact ActionCalls.create_sends context

end StackPanel

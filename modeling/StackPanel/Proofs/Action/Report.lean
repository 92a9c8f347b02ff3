import StackPanel.Action.Dispatcher
import StackPanel.Proofs.Service.Connection
import StackPanel.Proofs.Service.Exchange

/-! What an action reports follows from the requests it sent and the replies they got. -/

namespace StackPanel

/-- Whether a request over a connection asks for the list of stacks. -/
def Connection.IsListFetch (connection : Connection) (request : Request) : Prop :=
  request.method = .get ∧ request.url = joinUrl connection.baseUrl "/stacks"

instance (connection : Connection) (request : Request) :
    Decidable (connection.IsListFetch request) :=
  inferInstanceAs (Decidable (_ ∧ _))

/-- The text that a successful fetch of the list brought. -/
def Connection.listBody? (connection : Connection) (sent : Request × Reply) : Option String :=
  if connection.IsListFetch sent.1 then sent.2.successText? else none

/-- The id that the service gave to a stack when it took the order to create it. -/
def createdId? (sent : Request × Reply) : Option String :=
  if sent.1.method = .post then
    sent.2.successText?.bind fun text => (ResponseBody.parse text).stackId?
  else none

/-- What is shown for the text of a fetched list. Empty text counts as an empty object. -/
def ListContent.ofBody (body : String) : ListContent :=
  match ResponseBody.parse body with
  | .text _ => .placeholder "stack list response was not JSON"
  | .json value =>
    match StackSummary.listOfJson value with
    | .error error => .placeholder (StackSummary.listMessage error)
    | .ok [] => .placeholder StackList.noResults
    | .ok summaries => .cards (summaries.map StackCard.ofSummary)

/-- A list that shows a fetched text, with the selection kept inside it. -/
def StackList.showing (list : StackList) (body : String) : StackList :=
  let shown : StackList := { content := .ofBody body, selected := list.selected }
  { shown with selected := min list.selected (shown.cards.length - 1) }

/-- The id that an outcome passes on to the fields. -/
def ActionOutcome.createdId? (outcome : ActionOutcome) : Option String :=
  match outcome.result with
  | .ok output => output.createdStackId
  | .error _ => none

/-- The position of the request by which an action fetches the list, if it does. -/
def ActionId.fetchPosition? : ActionId → Option Nat
  | .listStacks | .refreshList => some 0
  | .deleteItem => some 1
  | _ => none

/-- An outcome shows what the requests of its action brought, and nothing else. -/
structure ActionOutcome.Reports (outcome : ActionOutcome) (connection : Connection)
    (fetch? : Option Nat) (transcript : List (Request × Reply)) : Prop where
  /-- The list is fetched at the given position only. -/
  fetches : ∀ position sent, transcript[position]? = some sent →
    (connection.IsListFetch sent.1 ↔ fetch? = some position)
  /-- The list changes only to what the last successful fetch brought. -/
  stackList : ∀ panel : Panel, (panel.showListing outcome.listing).stackList =
    match (transcript.filterMap connection.listBody?).getLast? with
    | none => panel.stackList
    | some body => panel.stackList.showing body
  /-- The new id is the last one that the service gave. -/
  createdId : outcome.createdId? = (transcript.filterMap StackPanel.createdId?).getLast?

/-- A successful fetch of the list is shown, and a failed one leaves the list alone. -/
theorem Panel.showListing_fetched (panel : Panel) (request : Request) (reply : Reply) :
    (panel.showListing (ActionOutcome.fetched (Call.outcome request reply))).stackList =
      match reply.successText? with
      | none => panel.stackList
      | some body => panel.stackList.showing body := by
  cases answered : reply.successText? with
  | none =>
    -- An error is no listing at all, so there is nothing to show.
    obtain ⟨error, failed⟩ := Call.outcome_of_failure request answered
    simp [failed, ActionOutcome.fetched, Panel.showListing]
  | some body =>
    -- The payload holds the text as it was read, so only that reading is left to follow.
    obtain ⟨status, succeeded⟩ := Call.outcome_of_success request answered
    simp only [succeeded, ActionOutcome.fetched, ActionOutcome.listingOf, Call.payload]
    unfold StackList.showing ListContent.ofBody
    cases ResponseBody.parse body with
    -- Text that is no JSON is shown as such, and so is JSON that holds no list.
    | text raw => simp [Panel.showListing, StackList.renderPlaceholder, StackList.cards]
    | json value =>
      cases listed : StackSummary.listOfJson value with
      | error error =>
        -- One message stands for all that the reader has against the value.
        simp [listed, Panel.showListing, StackList.renderPlaceholder, StackList.cards]
      | ok summaries =>
        -- An empty list has a placeholder of its own, which is no card to select.
        cases summaries with
        | nil => simp [listed, Panel.showListing, StackList.render, StackList.contentOf,
            StackList.cards]
        | cons first rest => simp [listed, Panel.showListing, StackList.render,
            StackList.contentOf, StackList.cards]

end StackPanel

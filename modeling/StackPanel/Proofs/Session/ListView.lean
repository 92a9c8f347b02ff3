import StackPanel.Proofs.Action.RemoveItem
import StackPanel.Proofs.Session.Run

/-! The list of stacks shows the fetch of the list that was delivered last, and nothing else. -/

namespace StackPanel

/-- The texts that successful fetches of the list bring when an action gets some replies. -/
def PendingAction.listBodies (action : PendingAction) (replies : List Reply) : List String :=
  (action.exchange.transcript Exchange.scripted replies).filterMap
    action.context.connection.listBody?

/-- Whether an action fetches the list with its request at some position. Listing and refreshing
fetch at once, and the removal of an item after it, provided that the item has an accepted id. -/
def PendingAction.FetchesAt (action : PendingAction) (position : Nat) : Prop :=
  (action.id = .listStacks ∨ action.id = .refreshList) ∧ position = 0 ∨
    (action.id = .deleteItem ∧ ∃ id, removalTarget action.context.target = .ok id) ∧ position = 1

namespace ActionCalls

variable (context : ActionContext) {reply : Reply} {body : String}
  (success : reply.successText? = some body) (rest : List Reply)

include success

/-- A success of the one request of a listing brings its text. -/
theorem filterMap_listBody?_list :
    ((list context).transcript Exchange.scripted (reply :: rest)).filterMap
      context.connection.listBody? = [body] := by
  -- The connection is that of the request, so it is one of its own fetches.
  have fetches : context.connection.IsListFetch
      ((Call.get "/stacks").request context.connection) := ⟨rfl, rfl⟩
  show [((Call.get "/stacks").request context.connection, reply)].filterMap _ = _
  simp [Connection.listBody?, fetches, success]

/-- A success of the second request of a removal brings its text, whatever came back before. -/
theorem filterMap_listBody?_removeItem {id : String}
    (accepted : removalTarget context.target = .ok id) (first : Reply) :
    ((removeItem context).transcript Exchange.scripted (first :: reply :: rest)).filterMap
      context.connection.listBody? = [body] := by
  let removal := (Call.delete (stackPath id)).request context.connection
  -- A removal has another method.
  have silent : ¬context.connection.IsListFetch removal := by
    simp [removal, Connection.IsListFetch, Call.delete, Call.request]
  have fetches : context.connection.IsListFetch
      ((Call.get "/stacks").request context.connection) := ⟨rfl, rfl⟩
  -- The removal is sent since its target is accepted, and the fetch follows it in any case.
  have sent : (removeItem context).transcript Exchange.scripted (first :: reply :: rest) =
      [(removal, first), ((Call.get "/stacks").request context.connection, reply)] := by
    rw [removeItem, validate_getD, accepted]
    rfl
  rw [sent]
  simp [Connection.listBody?, silent, fetches, success]

end ActionCalls

/-- An action of the panel's table that fetches the list brings the text of a reply of success to its
fetch, and no other text. -/
theorem PendingAction.IsStandard.listBodies_eq {action : PendingAction}
    (standard : action.IsStandard) {position : Nat} (fetches : action.FetchesAt position)
    {replies : List Reply} {reply : Reply} (found : replies[position]? = some reply)
    {body : String} (success : reply.successText? = some body) :
    action.listBodies replies = [body] := by
  rw [listBodies, exchange]
  unfold IsStandard at standard
  rcases fetches with ⟨lists | refreshes, rfl⟩ | ⟨⟨removes, id, accepted⟩, rfl⟩
  case inl.inl | inl.inr =>
    -- Both actions are the same fetch, which gets the first reply.
    obtain ⟨rest, rfl⟩ : ∃ rest, replies = reply :: rest := by
      cases replies <;> simp_all
    have calls : action.calls = ActionCalls.list := by simp_all [Dispatcher.standard]
    rw [calls]
    exact ActionCalls.filterMap_listBody?_list _ success rest
  case inr =>
    -- The second reply is that to the fetch.
    obtain ⟨first, rest, rfl⟩ : ∃ first rest, replies = first :: reply :: rest := by
      rcases replies with _ | ⟨first, _ | ⟨second, rest⟩⟩ <;> simp_all
    have calls : action.calls = ActionCalls.removeItem := by simp_all [Dispatcher.standard]
    rw [calls]
    exact ActionCalls.filterMap_listBody?_removeItem _ success rest accepted first

namespace Session

/-- The texts that an event's successful fetches of the list brought. -/
def fetchedBodies (session : Session) (event : Event) : List String :=
  (session.exchanged event).filterMap fun sent => sent.1.listBody? sent.2

/-- The texts are those that the action which ends brings. -/
theorem fetchedBodies_answer {session : Session} {position : Nat} {action : PendingAction}
    (found : session.pending[position]? = some action) (now : Instant) (replies : List Reply) :
    session.fetchedBodies (.answer position now replies) = action.listBodies replies := by
  -- What an event exchanges are the pairs of the action that it ends.
  simp only [fetchedBodies, exchanged, found, List.filterMap_map, Function.comp_def]
  rfl

/-- What the list shows when some texts have been fetched, the latest last. -/
def contentAfter (bodies : List String) : ListContent :=
  match bodies.getLast? with
  | none => .placeholder StackList.notLoaded
  | some body => .ofBody body

/-- No key changes what the list shows. -/
theorem content_press (session : Session) (press : KeyPress) (now : Instant) (written : Bool) :
    (session.press press now written).panel.stackList.content =
      session.panel.stackList.content := by
  -- Neither a cleared console nor an action that begins has a part in the list.
  rcases session.press_cases press now written with
    ⟨_, rearranged⟩ | ⟨_, _, cleared⟩ | ⟨_, _, _, _, _, _, _, begun⟩
  · exact rearranged.content
  · rw [cleared]
    rfl
  · rw [begun]
    rfl

/-- An event changes what the list shows only to what its last successful fetch brought. -/
theorem content_step {session : Session} (reached : session.Reachable) (event : Event) :
    (session.step event).panel.stackList.content =
      (session.fetchedBodies event).getLast?.elim session.panel.stackList.content .ofBody := by
  cases event with
  | press press now written => exact session.content_press press now written
  | answer position now replies =>
    cases found : session.pending[position]? with
    -- Where nothing is pending there is neither a request nor a change.
    | none => simp [step, Session.deliver, fetchedBodies, exchanged, found]
    | some action =>
      -- The end of the action shows the listing of its outcome, which reports the fetches.
      have reports := reports_outcomeOf
        (reached.standard action (List.mem_of_getElem? found)) replies
      have shown := reports.stackList session.panel
      simp only [step, Session.deliver, found, Terminal.deliver, Panel.complete_eq, fetchedBodies,
        exchanged, List.filterMap_map, Function.comp_def]
      simp only [PendingAction.ending, shown]
      cases (List.filterMap action.context.connection.listBody?
        (action.exchange.transcript Exchange.scripted replies)).getLast? <;> rfl

/-- In every session the list shows the text of the fetch delivered last among those that were
answered with success. An event without such a fetch leaves it alone, and only the actions that list
or refresh fetch the list with their first request, and the removal of an item with its second. Each
of them does send its fetch, and the text of a reply that means success is what is shown then. -/
theorem content_shows_latest_fetch (settings : Settings) (preferences : Preferences)
    (logPath : Option String) (events : List Event) :
    let opened := start settings preferences logPath
    let session := opened.after events
    session.panel.stackList.content = contentAfter (observed fetchedBodies opened events) ∧
    (∀ event, session.fetchedBodies event = [] →
      (session.step event).panel.stackList.content = session.panel.stackList.content) ∧
    (∀ action ∈ session.pending, ∀ replies position sent,
      (action.exchange.transcript Exchange.scripted replies)[position]? = some sent →
      (action.context.connection.IsListFetch sent.1 ↔
        (action.id = .listStacks ∨ action.id = .refreshList) ∧ position = 0 ∨
        action.id = .deleteItem ∧ position = 1)) ∧
    ∀ place action, session.pending[place]? = some action →
      ∀ position, action.FetchesAt position →
      ∀ now replies reply body, replies[position]? = some reply → reply.successText? = some body →
        session.fetchedBodies (.answer place now replies) = [body] ∧
        (session.step (.answer place now replies)).panel.stackList.content = .ofBody body := by
  intro opened session
  have opens : opened.Reachable := .start settings preferences logPath
  have reached : session.Reachable := opens.after events
  refine ⟨?_, ?_, ?_, ?_⟩
  · -- A text that is shown leaves nothing of the one before.
    obtain ⟨-, latest⟩ := view_after fetchedBodies
      (fun session => session.panel.stackList.content) (fun body _ => .ofBody body) Reachable
      (fun _ _ _ => rfl) (fun _ reached event _ => reached.after [event])
      (fun _ reached event _ => content_step reached event) opens
      events (fun _ _ => trivial)
    rw [latest, contentAfter]
    cases (observed fetchedBodies opened events).getLast? <;> rfl
  · -- With nothing fetched the step has nothing to show.
    intro event nothing
    rw [content_step reached event, nothing]
    rfl
  · -- The table says which request of an action is the fetch.
    intro action started replies position sent found
    rw [(reports_outcomeOf (reached.standard action started) replies).fetches position sent found]
    cases action.id <;> simp [ActionId.fetchPosition?, eq_comm]
  · -- The fetch is in the transcript, and its text is the only one that the step can show.
    intro place action found position fetches now replies reply body replied success
    have standard := reached.standard action (List.mem_of_getElem? found)
    have fetched : session.fetchedBodies (.answer place now replies) = [body] :=
      (fetchedBodies_answer found now replies).trans
        (standard.listBodies_eq fetches replied success)
    refine ⟨fetched, ?_⟩
    rw [content_step reached, fetched]
    rfl

/-- Keys that go to the list of stacks and refresh it. -/
def refreshing : List Event :=
  [.press { key := .char '2' } (.ofUnixMilliseconds 0) true,
    .press { key := .char 'r' } (.ofUnixMilliseconds 1) true]

/-- A reply that lists one stack. -/
def oneStack : String :=
  "\x7b\"stacks\":[\x7b\"stack_id\":\"a\"\x7d]\x7d"

/-- The list is refreshed, and then the key for the removal of its only stack is pressed. -/
def removing : List Event :=
  refreshing ++ [.answer 0 (.ofUnixMilliseconds 2) [.answer 200 oneStack],
    .press { key := .char 'd' } (.ofUnixMilliseconds 3) true]

/-- The reply to the refresh is shown, and later the one to the fetch after the removal, even though
the removal has failed. -/
theorem removing_shows_both_fetches :
    let opened := start .initial .unavailable none
    let refreshed := Event.answer 0 (.ofUnixMilliseconds 2) [.answer 200 oneStack]
    let removed := Event.answer 0 (.ofUnixMilliseconds 4) [.failure "gone", .answer 200 "\x7b\x7d"]
    ((opened.after refreshing).step refreshed).panel.stackList.content =
        .cards [.ofSummary { stackId := "a" }] ∧
      ((opened.after removing).step removed).panel.stackList.content =
        .placeholder StackList.noResults := by
  intro opened refreshed removed
  -- Each key has started one action, which fetches with its first request or its second.
  have first : (opened.after refreshing).pending.map (·.id) = [.refreshList] := by decide +kernel
  have second : (opened.after removing).pending.map (fun action =>
      (action.id, action.context.target)) = [(.deleteItem, some "a")] := by decide +kernel
  obtain ⟨fetch, fetching, listed⟩ := List.map_eq_singleton_iff.mp first
  obtain ⟨removal, pending, aimed⟩ := List.map_eq_singleton_iff.mp second
  obtain ⟨removes, target⟩ := Prod.mk.inj aimed
  have accepted : removalTarget removal.context.target = .ok "a" := target ▸ rfl
  obtain ⟨-, -, -, shown⟩ := content_shows_latest_fetch .initial .unavailable none refreshing
  obtain ⟨-, -, -, alsoShown⟩ := content_shows_latest_fetch .initial .unavailable none removing
  constructor
  · obtain ⟨-, content⟩ := shown 0 fetch (by rw [fetching]; rfl) 0 (.inl ⟨.inr listed, rfl⟩)
      (.ofUnixMilliseconds 2) [.answer 200 oneStack] (.answer 200 oneStack) oneStack rfl rfl
    rw [content]
    decide +kernel
  · obtain ⟨-, content⟩ := alsoShown 0 removal (by rw [pending]; rfl) 1
      (.inr ⟨⟨removes, "a", accepted⟩, rfl⟩) (.ofUnixMilliseconds 4)
      [.failure "gone", .answer 200 "\x7b\x7d"] (.answer 200 "\x7b\x7d") "\x7b\x7d" rfl rfl
    rw [content]
    decide +kernel

end Session

end StackPanel

import StackPanel.Proofs.Action.StackTarget
import StackPanel.Proofs.Screen.CardList
import StackPanel.Proofs.Session.Exclusion
import StackPanel.Proofs.Session.Run
import StackPanel.Proofs.Stack.CardList

/-! The card that is marked on the list of stacks is the one that the key for removal is about, in
every session that can be reached. -/

namespace StackPanel

/-- A key that runs no action leaves the selection of the list on a card. -/
theorem Panel.Adjusts.selectsCard {before after : Panel} (adjusts : before.Adjusts after)
    (selects : before.stackList.SelectsCard) : after.stackList.SelectsCard := by
  cases adjusts with
  | fills field text written =>
    -- The list is no field, and saving a key does not touch it either.
    rw [before.result_setInput]
    exact selects
  | selects list moved =>
    rcases moved with rfl | rfl
    · exact selects.selectNext
    · exact selects.selectPrevious
  -- Tabs and the choice of sending the key are no part of the list.
  | same | goes | toggles => exact selects

/-- Showing a list that was fetched leaves the selection on a card. -/
theorem Panel.selectsCard_showListing {panel : Panel} (selects : panel.stackList.SelectsCard)
    (listing : Option Listing) : (panel.showListing listing).stackList.SelectsCard := by
  unfold showListing
  split
  -- Without a listing the list stays as it is.
  · exact selects
  · -- A list that was fetched is shown anew, and an error puts a line in its place.
    exact StackList.selectsCard_render _ _
  · exact StackList.selectsCard_renderPlaceholder _

/-- Whether an action is the removal of the stack of a card: it sends the removal and then fetches
the list if the id that the card carries can stand in a path, and otherwise nothing. In either case
the path of a removal ends in the very id that the header of the card shows. -/
structure PendingAction.Removes (action : PendingAction) (panel : Panel) (card : StackCard) :
    Prop where
  item : action.id = .deleteItem
  target : action.context.target = some card.deleteTarget
  removed : StackId.IsSegment (Text.trim card.deleteTarget) →
    ∀ {σ : Type} (answer : σ → Request → Reply × σ) (state : σ),
      (action.exchange.run answer state).sent =
        panel.stackRequests .deleteItem .delete card.stackId ""
  refused : ¬StackId.IsSegment (Text.trim card.deleteTarget) →
    ∀ {σ : Type} (answer : σ → Request → Reply × σ) (state : σ),
      (action.exchange.run answer state).sent = []
  shown : ∀ {σ : Type} (answer : σ → Request → Reply × σ) (state : σ),
    ∀ request ∈ (action.exchange.run answer state).sent, request.method = .delete →
      request.url = panel.connection.baseUrl ++ "/stacks/" ++ card.stackId

/-- The trigger that the card of a stack carries for its removal. -/
def StackCard.removal (card : StackCard) : ActionTrigger :=
  { id := .deleteItem, target := some card.deleteTarget }

/-- On a free panel the removal that a card carries starts an action that removes its stack. -/
theorem Terminal.launch_removal {terminal : Terminal} (free : terminal.panel.isBusy = false)
    (now : Instant) (summary : StackSummary) :
    let card := StackCard.ofSummary summary
    ∃ action, (terminal.launch .standard now card.removal).started = some action ∧
      action.Removes terminal.panel card := by
  intro card
  -- A removal is one of the actions about a single stack.
  have about : card.removal.id.onStack? = some (.delete, "") := rfl
  obtain ⟨action, started, keeps⟩ := Dispatcher.dispatch_onStack free now about
  have removed : StackId.IsSegment (Text.trim card.deleteTarget) →
      ∀ {σ : Type} (answer : σ → Request → Reply × σ) (state : σ),
        (action.exchange.run answer state).sent =
          terminal.panel.stackRequests .deleteItem .delete card.stackId "" := by
    intro segment σ answer state
    -- What is validated is the id as the service sent it, and the header shows it trimmed.
    have filled : Text.blank summary.stackId = false := by
      rw [← Text.isEmpty_trim]
      exact Bool.eq_false_iff.mpr fun empty => segment.nonempty (String.isEmpty_iff.mp empty)
    have shown : card.stackId = Text.trim card.deleteTarget := StackCard.stackId_ofSummary filled
    rw [shown]
    exact keeps.asks segment answer state
  have target : action.context.target = some card.deleteTarget := by
    -- The action was given the target of its trigger.
    rw [keeps.context]
    rfl
  refine ⟨action, started, keeps.id, target, removed, keeps.refuses, ?_⟩
  intro σ answer state request member removal
  by_cases segment : StackId.IsSegment (Text.trim card.deleteTarget)
  · -- Of the two requests only the first is a removal.
    rw [removed segment answer state] at member
    rcases List.mem_cons.mp member with rfl | fetched
    · simp [Panel.stackRequest]
    · obtain rfl : request = terminal.panel.fetchRequest := by simpa using fetched
      simp [Panel.fetchRequest] at removal
  · -- A refused id sends nothing, so there is no request to speak of.
    rw [keeps.refuses segment answer state] at member
    simp at member

namespace Session

/-- In every session that can be reached the selection of the list is on a card. -/
theorem Reachable.selectsCard {session : Session} (reached : session.Reachable) :
    session.panel.stackList.SelectsCard := by
  -- Keys move it from card to card, and the end of an action replaces the list as a whole.
  induction reached with
  | start settings preferences logPath => exact StackList.selectsCard_initial
  | @step session next _ taken ih =>
    cases taken with
    | press press now written =>
      rcases session.terminal.press_cases .standard now press written with
        ⟨trigger, -, -, same⟩ | ⟨-, adjusts⟩
      · -- An action that starts changes the lock and the console, but not yet the list.
        obtain ⟨isBusy, console, launched⟩ := session.terminal.panel_launch now trigger
        show (_ : Terminal).panel.stackList.SelectsCard
        simp only [Session.press, same, launched]
        exact ih
      · exact adjusts.selectsCard ih
    | deliver position now outcome =>
      unfold Session.deliver
      split
      · exact ih
      · -- Whatever the outcome is, all that can reach the list is a listing that was fetched.
        simp only [Session.panel, Terminal.deliver, Panel.complete_eq]
        exact Panel.selectsCard_showListing ih _

/-- A key that runs an action on a free panel with nothing under way leaves that action alone
pending. -/
theorem pending_press_run {session : Session} (nothing : session.pending = [])
    (normal : session.terminal.mode = .normal) {press : KeyPress} {trigger : ActionTrigger}
    (runs : Command.ofPress? session.panel press = some (.run trigger)) (now : Instant)
    (written : Bool) {action : PendingAction}
    (started : (session.terminal.launch .standard now trigger).started = some action) :
    (session.press press now written).pending = [action] := by
  -- The command is carried out by its launch, which is all that adds to what is pending.
  simp only [Session.press, Terminal.press, normal, runs, Terminal.perform, Saving.of, nothing,
    started]
  rfl

/-- In every session that can be reached the selected position of the list is the first one or that
of a card. While keys are commands, the list is in front and nothing is under way, the key for
removal does nothing if there is no card. Otherwise one card alone is laid out as the selected one,
and the key starts the removal of its stack and of no other. -/
theorem marked_card_is_removed {session : Session} (reached : session.Reachable) :
    let list := session.panel.stackList
    (list.selected = 0 ∨ list.selected < list.cards.length) ∧
    (session.terminal.mode = .normal → session.panel.tab = .stackList →
      session.panel.isBusy = false →
      ∀ press now written, press.key = .char 'd' → press.control = false →
        (∀ message, list.content = .placeholder message →
          session.press press now written = session) ∧
        ∀ cards, list.content = .cards cards → ∃ card,
          cards[list.selected]? = some card ∧ Screen.CardList.SelectedAlone list card ∧
          (Screen.CardList.header card true).map (·.text) =
            [" ▸ ", card.stackId, "  ", "● " ++ card.status, "   [d] delete"] ∧
          ∃ action, (session.press press now written).pending = [action] ∧
            action.Removes session.panel card) := by
  intro list
  -- By induction over the run the selection is on a card.
  have selects : list.SelectsCard := reached.selectsCard
  refine ⟨selects.inRange, ?_⟩
  intro normal front free press now written key plain
  -- The key means the removal that the selected card carries, as far as there is such a card.
  have meant : Command.ofPress? session.panel press =
      list.selectedCard?.map fun card => .run card.removal := by
    simp [Command.ofPress?, Command.ofChar?, Command.ofLetter?, key, plain, front, list]
    rfl
  constructor
  · -- A line in place of the cards leaves the key without a meaning.
    intro message shown
    have nothing : list.selectedCard? = none := by
      simp [StackList.selectedCard?, StackList.cards, shown]
    rw [nothing] at meant
    simp [Session.press, Terminal.press, normal, meant, Saving.of, Terminal.Step.changing]
  · -- The card that is selected decides both what is drawn and what the key removes.
    intro cards shown
    obtain ⟨summary, selected⟩ := selects.selectedCard?_eq shown
    obtain ⟨action, started, removes⟩ := session.terminal.launch_removal free now summary
    -- An idle panel has nothing pending.
    have nothing : session.pending = [] := reached.exclusive.pending_nil free
    have same : list.cards = cards := by simp [StackList.cards, shown]
    rw [selected] at meant
    exact ⟨.ofSummary summary, same ▸ selected,
      Screen.CardList.selectedAlone_of_selectedCard? selected, rfl, action,
      pending_press_run nothing normal meant now written started, removes⟩

/-- Two fetches of the list, of which the second comes when the last of three stacks is selected and
brings only two. -/
def shrinkingEvents : List Event :=
  [.press { key := .char '2' } (.ofUnixMilliseconds 0) true,
    .press { key := .char 'r' } (.ofUnixMilliseconds 1) true,
    .answer 0 (.ofUnixMilliseconds 2) [.answer 200 ("\x7b\"stacks\":[" ++
      "\x7b\"stack_id\":\"a\"\x7d,\x7b\"stack_id\":\"b\"\x7d,\x7b\"stack_id\":\"c\"\x7d]\x7d")],
    .press { key := .char 'j' } (.ofUnixMilliseconds 3) true,
    .press { key := .char 'j' } (.ofUnixMilliseconds 4) true,
    .press { key := .char 'r' } (.ofUnixMilliseconds 5) true,
    .answer 0 (.ofUnixMilliseconds 6) [.answer 200
      "\x7b\"stacks\":[\x7b\"stack_id\":\"a\"\x7d,\x7b\"stack_id\":\" b\"\x7d]\x7d"]]

/-- The selection falls back on the last of the two, and that is the one that is removed. -/
theorem shrinkingEvents_removes_marked_card :
    let session := (start .initial .unavailable none).after shrinkingEvents
    session.panel.stackList.selected = 1 ∧
      ∃ action, (session.press { key := .char 'd' } (.ofUnixMilliseconds 7) true).pending =
          [action] ∧
        (action.exchange.run Exchange.scripted []).sent.map (fun sent => (sent.method, sent.url)) =
          [(.delete, "http://localhost:8081/stacks/b"),
            (.get, "http://localhost:8081/stacks")] := by
  intro session
  have reached : session.Reachable :=
    (Reachable.start .initial .unavailable none).after shrinkingEvents
  -- All that is asked of the session is read off its run.
  obtain ⟨normal, front, free, base, last, shown, ids⟩ :
      session.terminal.mode = .normal ∧ session.panel.tab = .stackList ∧
      session.panel.isBusy = false ∧
      session.panel.connection.baseUrl = "http://localhost:8081" ∧
      session.panel.stackList.selected = 1 ∧
      session.panel.stackList.content = .cards session.panel.stackList.cards ∧
      (session.panel.stackList.selectedCard?.map fun card => (card.stackId, card.deleteTarget)) =
        some ("b", " b") := by
    decide +kernel
  refine ⟨last, ?_⟩
  -- The selected card is the one that the key is about, so its ids are known.
  obtain ⟨card, selected, -, -, action, pending, removes⟩ :=
    ((marked_card_is_removed reached).2 normal front free { key := .char 'd' }
      (.ofUnixMilliseconds 7) true rfl rfl).2 _ shown
  rw [StackList.selectedCard?, selected] at ids
  obtain ⟨id, target⟩ : card.stackId = "b" ∧ card.deleteTarget = " b" := by simpa using ids
  -- The id is trimmed before it is validated.
  have valid : StackId.validate card.deleteTarget = .ok "b" := target ▸ rfl
  obtain ⟨trimmed, segment⟩ := StackId.validate_eq_ok_iff.mp valid
  have sent := removes.removed (trimmed ▸ segment) Exchange.scripted []
  refine ⟨action, pending, ?_⟩
  rw [sent, id]
  simp [Panel.stackRequests, Panel.stackRequest, Panel.fetchRequest, base]

end Session

end StackPanel

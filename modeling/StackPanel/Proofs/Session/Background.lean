import StackPanel.Proofs.Session.Run
import StackPanel.Proofs.Terminal.Inputs

/-! Keys that are pressed while an action is under way have no part in what it sends, and its end
has no part in what they did. -/

namespace StackPanel

namespace Panel

variable {first second : Panel}

/-- What an end shows as the list depends on nothing but what was shown before. -/
theorem content_showListing (same : first.stackList.content = second.stackList.content)
    (listing : Option Listing) :
    (first.showListing listing).stackList.content =
      (second.showListing listing).stackList.content := by
  -- Without a list everything stays, and any list replaces everything.
  unfold showListing
  split
  · exact same
  · rfl
  · rfl

/-- The stack created last depends, after an action, on nothing but the one before. -/
theorem lastStackId_inputsAfter (same : first.inputs.lastStackId = second.inputs.lastStackId)
    (created : Option String) :
    (first.inputsAfter created).lastStackId = (second.inputsAfter created).lastStackId := by
  cases created with
  | none => exact same
  | some id =>
    -- An id that is passed on replaces what was there.
    cases empty : id.isEmpty with
    | true => rw [first.inputsAfter_empty empty, second.inputsAfter_empty empty, same]
    | false => rw [first.inputsAfter_some empty, second.inputsAfter_some empty]

end Panel

namespace Session

/-- A session in which an action has just been asked for at a terminal. -/
def launched (terminal : Terminal) (now : Instant) (trigger : ActionTrigger) : Session :=
  let step := terminal.launch .standard now trigger
  { terminal := step.terminal, pending := step.started.toList }

/-- Whether an event is a key. -/
def Event.IsPress : Event → Prop
  | .press _ _ _ => True
  | .answer _ _ _ => False

/-- Whether a session waits for the end of an action, with the content of the list and the stack
created last still as they were on a panel before it. -/
structure Awaits (session : Session) (action : PendingAction) (before : Panel) : Prop where
  pending : session.pending = [action]
  isBusy : session.panel.isBusy = true
  content : session.panel.stackList.content = before.stackList.content
  lastStackId : session.panel.inputs.lastStackId = before.inputs.lastStackId

variable {session : Session} {action : PendingAction} {before : Panel}

/-- No key ends the wait, whatever it does to the panel. -/
theorem Awaits.press (awaits : session.Awaits action before) (press : KeyPress) (now : Instant)
    (written : Bool) : (session.press press now written).Awaits action before := by
  have kept : (session.press press now written).panel.inputs.lastStackId =
      session.panel.inputs.lastStackId := session.terminal.lastStackId_press now press written
  -- Both other kinds of key need a panel that is idle.
  rcases session.press_cases press now written with
    ⟨same, rearranged⟩ | ⟨idle, -⟩ | ⟨idle, -⟩
  · exact {
      pending := same.trans awaits.pending
      isBusy := rearranged.isBusy.trans awaits.isBusy
      content := rearranged.content.trans awaits.content
      lastStackId := kept.trans awaits.lastStackId }
  · -- To clear the console at once the panel has to be idle.
    simp [awaits.isBusy] at idle
  · simp [awaits.isBusy] at idle

/-- No keys end the wait. -/
theorem Awaits.after (awaits : session.Awaits action before) {keys : List Event}
    (pressed : ∀ event ∈ keys, event.IsPress) : (session.after keys).Awaits action before := by
  -- Each key leaves a session that still waits, from which the next one goes on.
  induction keys generalizing session with
  | nil => exact awaits
  | cons event rest ih =>
    -- What holds of all keys holds of those after the first.
    have later : ∀ event ∈ rest, event.IsPress := fun event member =>
      pressed event (List.mem_cons_of_mem _ member)
    cases event with
    | press press now written => exact ih (awaits.press press now written) later
    | answer position now replies =>
      -- By assumption no answer comes between the keys.
      have isPress : False := pressed _ List.mem_cons_self
      contradiction

/-- An action that is asked for at a terminal with none under way is waited for. -/
theorem awaits_launched {terminal : Terminal} {trigger : ActionTrigger}
    {calls : ActionContext → Exchange ActionOutcome} (free : terminal.panel.isBusy = false)
    (handled : Dispatcher.standard.handler? trigger.id = some (.remote calls)) (now : Instant) :
    (launched terminal now trigger).Awaits
      { id := trigger.id, title := trigger.id.title, calls
        context := terminal.panel.context trigger.target }
      terminal.panel := by
  -- The lock is taken, and nothing else that is asked about changes.
  have dispatched : Dispatcher.standard.dispatch terminal.panel now trigger =
      (terminal.panel.begin now trigger.id.title,
        some { id := trigger.id, title := trigger.id.title, calls,
               context := terminal.panel.context trigger.target }) := by
    simp [Dispatcher.dispatch, free, handled]
  simp only [launched, Terminal.launch, dispatched]
  exact ⟨rfl, rfl, rfl, rfl⟩

/-- The end of the action that is waited for is the end of the wait. -/
theorem Awaits.answer (awaits : session.Awaits action before) (now : Instant)
    (replies : List Reply) :
    session.step (.answer 0 now replies) =
      { terminal := session.terminal.deliver now (action.ending (outcomeOf replies action))
        pending := [] } := by
  -- There is one action under way, at the first position.
  have first : session.pending[0]? = some action := by simp [awaits.pending]
  simp only [step, Session.deliver, first]
  simp [awaits.pending]

/-- The requests of the action that is waited for are those of running it. -/
theorem Awaits.exchanged (awaits : session.Awaits action before) (now : Instant)
    (replies : List Reply) :
    (session.exchanged (.answer 0 now replies)).map (fun sent => sent.2.1) =
      (action.exchange.run Exchange.scripted replies).sent := by
  have first : session.pending[0]? = some action := by simp [awaits.pending]
  -- A transcript lists exactly the requests of a run.
  rw [← Exchange.map_fst_transcript]
  simp [Session.exchanged, first, Function.comp_def]

/-- An action that makes requests agrees with running it in one go, whatever keys are pressed
between its start and its end. The same requests are sent and the same record is shown but for its
time, and the content of the list, the lock and the stack created last are the same. Of all else the
end changes nothing that the keys have done, except that the console is scrolled to its top and that
a new stack goes into the field of the stack id. -/
theorem background_agrees_atOnce {terminal : Terminal} (free : terminal.panel.isBusy = false)
    {trigger : ActionTrigger} (remote : trigger.id ≠ .clearConsole) (startedAt : Instant)
    {keys : List Event} (pressed : ∀ event ∈ keys, event.IsPress) (endedAt ranAt : Instant)
    (replies : List Reply) :
    let waiting := (launched terminal startedAt trigger).after keys
    let ended := waiting.step (.answer 0 endedAt replies)
    let atOnce := Dispatcher.standard.runAction terminal.panel ranAt trigger
      Exchange.scripted replies
    waiting.pending.length = 1 ∧ ended.pending = [] ∧
    (waiting.exchanged (.answer 0 endedAt replies)).map (fun sent => sent.2.1) = atOnce.sent ∧
    ended.panel.console = { atOnce.panel.console with stamp := some endedAt } ∧
    ended.panel.stackList.content = atOnce.panel.stackList.content ∧
    ended.panel.isBusy = atOnce.panel.isBusy ∧
    ended.panel.inputs.lastStackId = atOnce.panel.inputs.lastStackId ∧
    ended.panel.inputs =
      { waiting.panel.inputs with
        stackId := ended.panel.inputs.stackId
        lastStackId := ended.panel.inputs.lastStackId } ∧
    ended.terminal =
      { waiting.terminal with
        panel :=
          { waiting.panel with
            isBusy := ended.panel.isBusy
            console := ended.panel.console
            stackList := ended.panel.stackList
            inputs := ended.panel.inputs }
        scroll := 0 } := by
  intro waiting ended atOnce
  obtain ⟨calls, handled⟩ := Dispatcher.standard_remote remote
  let action : PendingAction :=
    { id := trigger.id, title := trigger.id.title, calls
      context := terminal.panel.context trigger.target }
  have awaits : waiting.Awaits action terminal.panel :=
    (awaits_launched free handled startedAt).after pressed
  -- Both ends come from one outcome, which only the inputs at the start decide.
  let outcome := outcomeOf replies action
  -- The end of the wait adds the outcome to what the keys have left.
  have endedPanel : ended.panel =
      { waiting.panel with
        isBusy := false
        console := Panel.endRecord endedAt action.title outcome.result
        stackList := (waiting.panel.showListing outcome.listing).stackList
        inputs := waiting.panel.inputsAfter outcome.createdId? } := by
    simp only [ended, awaits.answer, Session.panel, Terminal.deliver, Panel.complete_eq]
    rfl
  have carried := Dispatcher.runAction_idle free trigger handled ranAt Exchange.scripted replies
  -- Run in one go, the same outcome is added to the panel as it was at the start.
  have atOncePanel : atOnce.panel =
      { terminal.panel with
        console := Panel.endRecord ranAt action.title outcome.result
        stackList := (terminal.panel.showListing outcome.listing).stackList
        inputs := terminal.panel.inputsAfter outcome.createdId? } := by
    simp only [atOnce, carried, Panel.complete_begin _ _ free]
    rfl
  -- The scripted replies meet the same action in both cases.
  have sent : atOnce.sent = (action.exchange.run Exchange.scripted replies).sent := by
    simp only [atOnce, carried]
    rfl
  refine ⟨?_, ?_, ?_, ?_, ?_, ?_, ?_, ?_, ?_⟩
  · simp [awaits.pending]
  · simp only [ended, awaits.answer]
  · -- What was sent does not depend on the keys.
    rw [sent]
    exact awaits.exchanged endedAt replies
  · -- The records of one outcome differ in their time only.
    rw [endedPanel, atOncePanel]
    exact Panel.endRecord_stamp ..
  · rw [endedPanel, atOncePanel]
    -- No key changes the content of the list while the action is under way.
    exact Panel.content_showListing awaits.content _
  · rw [endedPanel, atOncePanel]
    exact free.symm
  · rw [endedPanel, atOncePanel]
    exact Panel.lastStackId_inputsAfter awaits.lastStackId _
  · -- Only the fields of the stack id are filled in by an end.
    rw [endedPanel]
    exact Panel.inputsAfter_eq ..
  · -- The terminal takes the panel over and scrolls back.
    have delivered : ended.terminal =
        { waiting.terminal with panel := ended.panel, scroll := 0 } := by
      simp only [ended, awaits.answer]
      rfl
    rw [delivered]
    simp only [endedPanel]

/-- A new terminal. -/
def newTerminal : Terminal :=
  .start (.start .initial .unavailable) none

/-- Keys that type another letter into the address, in an edit that is opened and finished. -/
def addressKeys : List Event :=
  [.press { key := .char '1' } (.ofUnixMilliseconds 1) true,
    .press { key := .enter } (.ofUnixMilliseconds 2) true,
    .press { key := .char 'x' } (.ofUnixMilliseconds 3) true,
    .press { key := .enter } (.ofUnixMilliseconds 4) true]

/-- A removal under way while the address is edited sends both of its requests to the address from
its start, and the edit stays. -/
theorem addressKeys_agrees_atOnce :
    let removal : ActionTrigger := { id := .deleteItem, target := some " abc " }
    let waiting := (launched newTerminal (.ofUnixMilliseconds 0) removal).after addressKeys
    let replies : List Reply := [.answer 204 "", .answer 200 "\x7b\"stacks\":[]\x7d"]
    let ended := waiting.step (.answer 0 (.ofUnixMilliseconds 5) replies)
    (waiting.exchanged (.answer 0 (.ofUnixMilliseconds 5) replies)).map (fun sent => sent.2.1.url) =
        ["http://localhost:8081/stacks/abc", "http://localhost:8081/stacks"] ∧
      ended.panel.console.state = .ok ∧ ended.panel.isBusy = false ∧
      ended.panel.inputs.baseUrl = "http://localhost:8081x" := by
  intro removal waiting replies ended
  have free : newTerminal.panel.isBusy = false := rfl
  have remote : removal.id ≠ .clearConsole := by decide
  have pressed : ∀ event ∈ addressKeys, event.IsPress := by simp [addressKeys, Event.IsPress]
  obtain ⟨-, -, sent, console, -, lock, -, inputs, -⟩ := background_agrees_atOnce free remote
    (.ofUnixMilliseconds 0) pressed (.ofUnixMilliseconds 5) (.ofUnixMilliseconds 0) replies
  -- The address was edited after the action had started.
  have edited : waiting.panel.inputs.baseUrl = "http://localhost:8081x" := by decide +kernel
  refine ⟨?_, ?_, ?_, ?_⟩
  · have urls := congrArg (List.map Request.url) sent
    rw [List.map_map] at urls
    exact urls.trans (by decide +kernel)
  · exact (congrArg ConsoleRecord.state console).trans (by decide +kernel)
  · exact lock.trans (by decide +kernel)
  · exact (congrArg Inputs.baseUrl inputs).trans edited

end Session

end StackPanel

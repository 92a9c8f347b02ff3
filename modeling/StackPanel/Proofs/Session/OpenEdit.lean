import StackPanel.Proofs.Session.Run
import StackPanel.Proofs.Terminal.Edit
import StackPanel.Proofs.Text.Trim

/-! The end of an edit writes the copied text back, over an id that was given in the meantime. -/

namespace StackPanel

namespace Inputs

/-- Inputs with the id of a new stack in both fields that hold stack ids. -/
def withStackId (inputs : Inputs) (id : String) : Inputs :=
  { inputs with stackId := id, lastStackId := id }

/-- The id of a new stack is read from the field of the stack id only. -/
theorem get_withStackId (inputs : Inputs) (id : String) (field : Field) :
    (inputs.withStackId id).get field = if field = .stackId then id else inputs.get field := by
  cases field <;> rfl

/-- Filling in a field fills in the stack id only if it is that field. -/
theorem stackId_set (inputs : Inputs) (field : Field) (text : String) :
    (inputs.set field text).stackId = if field = .stackId then text else inputs.stackId := by
  cases field <;> rfl

end Inputs

/-- An id that the service gave is never empty. -/
theorem isEmpty_of_createdId? {sent : Request × Reply} {id : String}
    (created : createdId? sent = some id) : id.isEmpty = false := by
  -- Blank ids are passed over, and of any other something is left by trimming.
  unfold createdId? at created
  split at created
  · obtain ⟨text, -, given⟩ := Option.bind_eq_some_iff.mp created
    unfold ResponseBody.stackId? at given
    split at given
    · rename_i raw _
      -- An id of white space alone counts as none.
      cases blank : Text.blank raw with
      | true => simp [blank] at given
      | false =>
        obtain rfl : Text.trim raw = id := by simpa [blank] using given
        rw [Text.isEmpty_trim, blank]
    · simp at given
  · -- Only an order can bring an id.
    simp at created

namespace Session

/-- The ids that the service gave to stacks in the replies of an event. -/
def createdIds (session : Session) (event : Event) : List String :=
  (session.exchanged event).filterMap fun sent => createdId? sent.2

/-- Whether an event is the end of an action, or a key that keeps the text of a field. -/
def Event.KeepsText (field : Field) : Event → Prop
  | press key _ _ => key.changesText field = false ∧ key.finishes field = false
  | .answer _ _ _ => True

/-- The end of an action changes the inputs only to hold the id that it was given. -/
theorem inputs_answer {session : Session} (reached : session.Reachable) (position : Nat)
    (now : Instant) (replies : List Reply) :
    (session.step (.answer position now replies)).panel.inputs =
      (session.createdIds (.answer position now replies)).getLast?.elim session.panel.inputs
        session.panel.inputs.withStackId := by
  cases found : session.pending[position]? with
  -- Where nothing is pending there is neither an id nor a change.
  | none => simp [step, Session.deliver, createdIds, exchanged, found]
  | some action =>
    -- The outcome reports the last id, which is not empty and so is passed on.
    have reports := reports_outcomeOf
      (reached.standard action (List.mem_of_getElem? found)) replies
    have created : session.createdIds (.answer position now replies) =
        (action.exchange.transcript Exchange.scripted replies).filterMap createdId? := by
      simp [createdIds, exchanged, found, List.filterMap_map]
    simp only [step, Session.deliver, found, Terminal.deliver, Panel.complete_eq,
      PendingAction.ending, reports.createdId, created]
    cases last : ((action.exchange.transcript Exchange.scripted replies).filterMap
        createdId?).getLast? with
    | none => rfl
    | some id =>
      -- The id comes from some request, and none of them gives an empty one.
      obtain ⟨sent, -, given⟩ := List.mem_filterMap.mp (List.mem_of_getLast? last)
      exact Panel.inputsAfter_some _ (isEmpty_of_createdId? given)

/-- Whether a session can be reached in which a field is edited, with some text in the buffer. -/
def ReachedEditing (session : Session) (field : Field) (text : String) : Prop :=
  session.Reachable ∧ session.terminal.Edits field text

/-- While an edit is open, an event that keeps its text leaves it open and changes the inputs only
to hold the id that it brought. -/
theorem ReachedEditing.step {session : Session} {field : Field} {text : String}
    (editing : session.ReachedEditing field text) {event : Event} (keeps : event.KeepsText field) :
    (session.step event).ReachedEditing field text ∧
      (session.step event).panel.inputs =
        (session.createdIds event).getLast?.elim session.panel.inputs
          session.panel.inputs.withStackId := by
  obtain ⟨reached, edits⟩ := editing
  have next : (session.step event).Reachable := reached.after [event]
  cases event with
  | press press now written =>
    -- A key for the field does not reach the inputs before the edit ends.
    obtain ⟨-, same, edited⟩ := Terminal.press_keepsText .standard now written edits keeps.1 keeps.2
    exact ⟨⟨next, edited⟩, congrArg Panel.inputs same⟩
  | answer position now replies =>
    -- The end of an action changes the panel and leaves the buffer alone.
    refine ⟨⟨next, ?_⟩, inputs_answer reached position now replies⟩
    simp only [Session.step, Session.deliver]
    -- A position where nothing waits changes nothing at all.
    split <;> exact edits

/-- While an edit is open, events that keep its text leave it open and change the inputs only to
hold the id that they brought last. -/
theorem ReachedEditing.after {session : Session} {field : Field} {text : String}
    (editing : session.ReachedEditing field text) {events : List Event}
    (keep : ∀ event ∈ events, event.KeepsText field) :
    (session.after events).ReachedEditing field text ∧
      (session.after events).panel.inputs =
        (observed createdIds session events).getLast?.elim session.panel.inputs
          session.panel.inputs.withStackId :=
  -- Of two ids the later one stays, in both fields that hold them.
  view_after createdIds (fun session => session.panel.inputs)
    (fun id inputs => inputs.withStackId id) (fun session => session.ReachedEditing field text)
    (fun _ _ _ => rfl) (fun _ editing _ keeps => (editing.step keeps).1)
    (fun _ editing _ keeps => (editing.step keeps).2) editing events keep

/-- An edit that is opened and finished with no key in between that changes the text puts back the
text from its opening. The inputs stay as they were just before the end, and the next action on one
stack is about the id that was created last in the meantime, exactly if the edit was of another
field or there was no other id. -/
theorem finished_edit_restores_opened {session : Session} (reached : session.Reachable)
    (normal : session.terminal.mode = .normal) {buffer : EditBuffer} (opening : KeyPress)
    (openedAt : Instant) (openedWritten : Bool)
    (opens : (session.press opening openedAt openedWritten).terminal.mode = .editing buffer)
    (between : List Event) (keep : ∀ event ∈ between, event.KeepsText buffer.field)
    (finishing : KeyPress) (finishedAt : Instant) (finishedWritten : Bool)
    (finishes : finishing.finishes buffer.field = true) :
    let opened := session.press opening openedAt openedWritten
    let before := opened.after between
    let finished := before.press finishing finishedAt finishedWritten
    let created := (observed createdIds opened between).getLast?
    finished.terminal.mode = .normal ∧
    before.panel.inputs = created.elim session.panel.inputs session.panel.inputs.withStackId ∧
    finished.panel.inputs =
      before.panel.inputs.set buffer.field (session.panel.inputs.get buffer.field) ∧
    (finished.panel.inputs = before.panel.inputs ↔
      buffer.field ≠ .stackId ∨ ∀ id, created = some id → session.panel.inputs.stackId = id) ∧
    ∀ id, created = some id → ∀ target,
      ((finished.panel.context target).stackId = id ↔
        buffer.field ≠ .stackId ∨ session.panel.inputs.stackId = id) := by
  intro opened before finished created
  obtain ⟨-, samePanel, copied⟩ :=
    Terminal.press_opens .standard openedAt openedWritten normal opens
  -- The copy is taken here, and nothing in between can change it.
  have editing : opened.ReachedEditing buffer.field (session.panel.inputs.get buffer.field) :=
    ⟨reached.step (.press opening openedAt openedWritten), buffer, opens, rfl, copied⟩
  have same : opened.panel.inputs = session.panel.inputs := congrArg Panel.inputs samePanel
  obtain ⟨⟨-, edited⟩, passedOn⟩ := editing.after keep
  have inputs : before.panel.inputs =
      created.elim session.panel.inputs session.panel.inputs.withStackId := same ▸ passedOn
  -- The finishing key commits the buffer, which still holds the copied text.
  obtain ⟨-, ended, writtenBack⟩ :=
    Terminal.press_finishes .standard finishedAt finishedWritten edited finishes
  have restored : finished.panel.inputs =
      before.panel.inputs.set buffer.field (session.panel.inputs.get buffer.field) := writtenBack
  refine ⟨ended, inputs, restored, ?_, ?_⟩
  · -- Writing a text back changes nothing only if the field holds that text.
    rw [restored, Inputs.set_eq_self_iff, inputs]
    cases last : created with
    | none => simp
    | some id =>
      -- Only an edit of the field itself can take the id away.
      by_cases aboutId : buffer.field = .stackId
      · simpa [Inputs.withStackId, Inputs.get, aboutId] using eq_comm
      · simp [Inputs.get_withStackId, aboutId]
  · -- An action reads the field of the stack id as it stands when it starts.
    intro id last target
    show finished.panel.inputs.stackId = id ↔ _
    rw [restored, inputs, last, Inputs.stackId_set]
    by_cases aboutId : buffer.field = .stackId
    · simp [aboutId, Inputs.get]
    · simp [aboutId, Inputs.withStackId]

/-- A new session in which a stack is being created while the tab of single stacks is in front. -/
def creating : Session :=
  (start { Settings.initial with podSpec := "pod" } .unavailable none).after
    [.press { key := .char '3' } (.ofUnixMilliseconds 0) true,
      .press { key := .char 'n' } (.ofUnixMilliseconds 1) true,
      .press { key := .char '4' } (.ofUnixMilliseconds 2) true]

/-- That session with the stack id open in an edit. -/
def openedWhileCreating : Session :=
  creating.press { key := .enter } (.ofUnixMilliseconds 3) true

/-- The creation ends with an id. -/
def givenId : Event :=
  .answer 0 (.ofUnixMilliseconds 4) [.answer 201 "\x7b\"stack_id\":\"stack-42\"\x7d"]

/-- An edit of the stack id that was empty when it was opened is finished with an empty one. -/
theorem openedWhileCreating_restores_opened :
    let before := openedWhileCreating.after [givenId]
    let finished := before.press { key := .escape } (.ofUnixMilliseconds 5) true
    before.panel.inputs.stackId = "stack-42" ∧ finished.panel.inputs.stackId = "" ∧
      finished.panel.inputs ≠ before.panel.inputs := by
  intro before finished
  have reached : creating.Reachable := (Reachable.start _ _ _).after _
  have normal : creating.terminal.mode = .normal := rfl
  have opens : openedWhileCreating.terminal.mode = .editing (.ofField .stackId "") := rfl
  -- The end of an action types nothing.
  have keep : ∀ event ∈ [givenId], event.KeepsText .stackId := by simp [givenId, Event.KeepsText]
  have created : (observed createdIds openedWhileCreating [givenId]).getLast? =
      some "stack-42" := by decide +kernel
  obtain ⟨-, inputs, restored, unchanged, -⟩ := finished_edit_restores_opened reached normal
    { key := .enter } (.ofUnixMilliseconds 3) true opens [givenId] keep
    { key := .escape } (.ofUnixMilliseconds 5) true rfl
  -- The id arrives while the edit is open, and the end of the edit wipes it out.
  have given : before.panel.inputs =
      (observed createdIds openedWhileCreating [givenId]).getLast?.elim creating.panel.inputs
        creating.panel.inputs.withStackId := inputs
  have writtenBack : finished.panel.inputs =
      before.panel.inputs.set .stackId (creating.panel.inputs.get .stackId) := restored
  refine ⟨?_, ?_, fun same => ?_⟩
  · rw [given, created]
    rfl
  · have empty : creating.panel.inputs.get .stackId = "" := rfl
    rw [writtenBack, Inputs.stackId_set, if_pos rfl, empty]
  · -- Had nothing changed, the id would have stood in the field before.
    rcases unchanged.mp same with other | old
    · exact other rfl
    · have empty : creating.panel.inputs.stackId = "" := rfl
      exact absurd (empty.symm.trans (old "stack-42" created)) (by decide)

/-- The id that the service gives to a stack while the stack id is open in an edit is lost with the
key that closes the edit, although no key has changed anything. -/
theorem openedWhileCreating_loses_id :
    let before := openedWhileCreating.after [givenId]
    let finished := before.press { key := .escape } (.ofUnixMilliseconds 5) true
    openedWhileCreating.terminal.mode = .editing (.ofField .stackId "") ∧
      observed createdIds openedWhileCreating [givenId] = ["stack-42"] ∧
      before.panel.inputs.stackId = "stack-42" ∧ finished.terminal.mode = .normal ∧
      finished.panel.inputs.stackId = "" := by
  decide +kernel

end Session

end StackPanel

import Mathlib.Logic.Function.Iterate
import StackPanel.Proofs.Session.OpenEdit
import StackPanel.Proofs.Terminal.Inputs

/-! What the fields hold in a session: each the text that was written to it last, by the end of an
edit or by the creation of a stack, and the choice of sending the key as often changed as asked. -/

namespace StackPanel

namespace Inputs

/-- Replacing the text of one field is seen in that field alone. -/
theorem get_set (inputs : Inputs) (changed field : Field) (text : String) :
    (inputs.set changed text).get field = if changed = field then text else inputs.get field := by
  -- All pairs of fields are compared.
  cases changed <;> cases field <;> rfl

/-- Filling in a field does not change whether the key is sent. -/
theorem sendsApiKey_set (inputs : Inputs) (field : Field) (text : String) :
    (inputs.set field text).sendsApiKey = inputs.sendsApiKey := by
  cases field <;> rfl

end Inputs

namespace Session

/-- The text that an event takes over into a field, if it finishes an edit of that field. -/
def committed (field : Field) (session : Session) : Event → List String
  | .press press _ _ =>
    match session.terminal.mode with
    | .editing buffer =>
      if buffer.field = field ∧ press.finishes field = true then [buffer.text] else []
    | .normal => []
  | .answer _ _ _ => []

/-- The texts that an event writes to a field: that of a finished edit, and to the field of the
stack id those that the service gave. -/
def written (field : Field) (session : Session) (event : Event) : List String :=
  session.committed field event ++ if field = .stackId then session.createdIds event else []

/-- The key that an event presses, if it changes the choice of sending the key of the service. -/
def toggles (session : Session) : Event → List KeyPress
  | .press press _ _ =>
    if session.terminal.mode = .normal ∧
        Command.ofPress? session.panel press = some .toggleApiKey then [press]
    else []
  | .answer _ _ _ => []

variable {session : Session}

/-- An event leaves in a field the last text that it writes there. -/
theorem get_step (reached : session.Reachable) (field : Field) (event : Event) :
    (session.step event).panel.inputs.get field =
      (session.written field event).getLast?.getD (session.panel.inputs.get field) := by
  cases event with
  | press press now written =>
    have inputs := session.terminal.inputs_press now press written
    simp only [step, Session.press, Session.panel, inputs, Session.written, committed, createdIds,
      exchanged, List.filterMap_nil, ite_self, List.append_nil]
    cases mode : session.terminal.mode with
    | editing buffer =>
      -- Only the end of an edit reaches a field, and only the field that was edited.
      simp only
      by_cases finishes : press.finishes buffer.field = true
      · rw [if_pos finishes, Inputs.get_set]
        by_cases same : buffer.field = field
        · -- The edited field is the one asked about, and it holds the text of the buffer.
          simp [same, same ▸ finishes]
        · simp [same]
      · rw [if_neg finishes]
        have other : ¬(buffer.field = field ∧ press.finishes field = true) := by
          rintro ⟨rfl, ends⟩
          exact finishes ends
        simp [other]
    | normal =>
      -- The choice of sending the key is no text.
      simp only
      split <;> cases field <;> rfl
  | answer position now replies =>
    simp only [inputs_answer reached position now replies, Session.written, committed,
      List.nil_append]
    -- An id that was given goes to the field of the stack id and to no other.
    by_cases aboutId : field = .stackId
    · -- Of several ids the last one stays.
      rw [if_pos aboutId, aboutId]
      cases (session.createdIds (.answer position now replies)).getLast? <;> rfl
    · cases (session.createdIds (.answer position now replies)).getLast? <;>
        simp [aboutId, Inputs.get_withStackId]

/-- If each event leaves the last thing that it lets observe, or else what was there before, then so
does a run. -/
theorem latest_after {α : Type} {observe : Session → Event → List α} (view : Session → α)
    (steps : ∀ {session : Session}, session.Reachable → ∀ event,
      view (session.step event) = (observe session event).getLast?.getD (view session))
    (reached : session.Reachable) (events : List Event) :
    view (session.after events) =
      (observed observe session events).getLast?.getD (view session) := by
  -- What is observed later leaves nothing of what was observed before it.
  have latest := (view_after observe view (fun value _ => value) Reachable (fun _ _ _ => rfl)
    (fun _ reached event _ => reached.after [event])
    (fun session reached event _ => by
      rw [steps reached event]
      cases (observe session event).getLast? <;> rfl)
    reached events (fun _ _ => trivial)).2
  rw [latest]
  cases (observed observe session events).getLast? <;> rfl

/-- After a run a field holds the text written to it last, or what it held before. -/
theorem get_after (reached : session.Reachable) (field : Field) (events : List Event) :
    (session.after events).panel.inputs.get field =
      (observed (written field) session events).getLast?.getD
        (session.panel.inputs.get field) :=
  latest_after (fun session => session.panel.inputs.get field)
    (fun reached event => get_step reached field event) reached events

/-- An event leaves as the stack created last the last one whose id it gave. -/
theorem lastStackId_step (reached : session.Reachable) (event : Event) :
    (session.step event).panel.inputs.lastStackId =
      (session.createdIds event).getLast?.getD session.panel.inputs.lastStackId := by
  cases event with
  | press press now written =>
    -- No key reaches it, and a key ends no action that could give an id.
    exact session.terminal.lastStackId_press now press written
  | answer position now replies =>
    -- The id given last goes to both fields that hold stack ids.
    rw [inputs_answer reached position now replies]
    cases (session.createdIds (.answer position now replies)).getLast? <;> rfl

/-- After a run the stack created last is the last one whose id was given, or the one before. -/
theorem lastStackId_after (reached : session.Reachable) (events : List Event) :
    (session.after events).panel.inputs.lastStackId =
      (observed createdIds session events).getLast?.getD session.panel.inputs.lastStackId :=
  latest_after (fun session => session.panel.inputs.lastStackId)
    (fun reached event => lastStackId_step reached event) reached events

/-- An event changes whether the key is sent exactly if it asks for that. -/
theorem sendsApiKey_step (reached : session.Reachable) (event : Event) :
    (session.step event).panel.inputs.sendsApiKey =
      Bool.not^[(session.toggles event).length] session.panel.inputs.sendsApiKey := by
  cases event with
  | press press now written =>
    have inputs := session.terminal.inputs_press now press written
    simp only [step, Session.press, Session.panel, inputs, toggles]
    cases mode : session.terminal.mode with
    | editing buffer =>
      -- The end of an edit fills in a text, and any other key reaches the buffer alone.
      simp only
      -- To send the key is a choice of its own beside the texts.
      split
      · simp [Inputs.sendsApiKey_set]
      · simp
    | normal =>
      -- The command that asks for it is the only one that changes it.
      by_cases asks : Command.ofPress? session.panel press = some .toggleApiKey
      · simp [asks]
      · simp [asks]
  | answer position now replies =>
    -- The end of an action leaves the choice alone.
    rw [inputs_answer reached position now replies]
    cases (session.createdIds (.answer position now replies)).getLast? <;> rfl

/-- After a run the choice of sending the key has changed once for each time this was asked. -/
theorem sendsApiKey_after (reached : session.Reachable) (events : List Event) :
    (session.after events).panel.inputs.sendsApiKey =
      Bool.not^[(observed toggles session events).length] session.panel.inputs.sendsApiKey := by
  -- A choice that is changed again and again is followed from event to event.
  induction events generalizing session with
  | nil => rfl
  | cons event rest ih =>
    calc
      (session.after (event :: rest)).panel.inputs.sendsApiKey
        = ((session.step event).after rest).panel.inputs.sendsApiKey := rfl
      _ = Bool.not^[(observed toggles (session.step event) rest).length]
            (session.step event).panel.inputs.sendsApiKey := ih (reached.after [event])
      _ = Bool.not^[(observed toggles session (event :: rest)).length]
            session.panel.inputs.sendsApiKey := by
          -- The changes of the first event come before those of the rest.
          rw [sendsApiKey_step reached event, observed, List.length_append,
            Nat.add_comm, Function.iterate_add_apply]

/-- While no edit of the stack id is finished, only given ids are written there. -/
theorem written_stackId_of_uncommitted {events : List Event}
    (uncommitted : observed (committed .stackId) session events = []) :
    observed (written .stackId) session events = observed createdIds session events := by
  induction events generalizing session with
  | nil => rfl
  | cons event rest ih =>
    -- Neither the first event nor any later one finishes such an edit.
    obtain ⟨first, later⟩ := List.append_eq_nil_iff.mp uncommitted
    simp [observed, written, first, ih later]

end Session

end StackPanel

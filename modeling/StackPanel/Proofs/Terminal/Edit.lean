import StackPanel.Proofs.Terminal.Press

/-! An edit holds a copy of the text of its field, which only its end writes back. -/

namespace StackPanel

namespace KeyPress

/-- Whether a key is one of those that change the text of a field. -/
def changesText (press : KeyPress) (field : Field) : Bool :=
  match press.key with
  | .char c => !press.control || c = 'w' || c = 'u'
  | .enter => field.isMultiline
  | .backspace | .delete => true
  | _ => false

/-- Whether a key finishes the edit of a field. -/
def finishes (press : KeyPress) (field : Field) : Bool :=
  match press.key with
  | .escape => true
  | .enter => !field.isMultiline
  | _ => false

end KeyPress

namespace Inputs

/-- Replacing a text changes nothing exactly if it is the text that was there. -/
theorem set_eq_self_iff (inputs : Inputs) (field : Field) (text : String) :
    inputs.set field text = inputs ↔ inputs.get field = text := by
  -- Two inputs are equal when all their fields are, and only one of them is replaced.
  cases inputs
  cases field <;> simp [set, get, eq_comm]

end Inputs

namespace EditBuffer

variable {buffer : EditBuffer} {press : KeyPress}

/-- A key that finishes the edit leaves the buffer as it is. -/
theorem press?_of_finishes (finishes : press.finishes buffer.field = true) :
    buffer.press? press = some (buffer, true) := by
  -- Only two keys finish an edit, and the second only where it starts no line.
  cases typed : press.key
  case escape => simp [press?, typed]
  case enter =>
    have single : buffer.field.isMultiline = false := by
      simpa [KeyPress.finishes, typed] using finishes
    simp [press?, typed, single]
  all_goals simp [KeyPress.finishes, typed] at finishes

/-- A key that neither changes the text nor finishes the edit moves the cursor at most. -/
theorem press?_of_keepsText {after : EditBuffer} {finished : Bool}
    (keeps : press.changesText buffer.field = false) (stays : press.finishes buffer.field = false)
    (pressed : buffer.press? press = some (after, finished)) :
    finished = false ∧ after.field = buffer.field ∧ after.text = buffer.text := by
  cases typed : press.key
  case char c =>
    -- With the control key held only two characters have a meaning.
    obtain ⟨⟨held, notWord⟩, notAll⟩ : (press.control = true ∧ c ≠ 'w') ∧ c ≠ 'u' := by
      simpa [KeyPress.changesText, typed] using keeps
    simp only [press?, typed, held, notWord, notAll, Bool.not_true, Bool.false_eq_true, if_false,
      Option.some.injEq, Prod.mk.injEq] at pressed
    obtain ⟨rfl, rfl⟩ := pressed
    exact ⟨rfl, rfl, rfl⟩
  case enter =>
    -- Where it does not finish the edit it starts a line.
    cases multiline : buffer.field.isMultiline
    · simp [KeyPress.finishes, typed, multiline] at stays
    · simp [KeyPress.changesText, typed, multiline] at keeps
  -- These two keys finish the edit or change the text, so they are none of those meant here.
  case escape => simp [KeyPress.finishes, typed] at stays
  case backspace | delete => simp [KeyPress.changesText, typed] at keeps
  case left | right =>
    -- The cursor moves to a boundary if it stands on one, and the text stays.
    simp only [press?, typed] at pressed
    obtain ⟨cursor, -, moved⟩ := Option.map_eq_some_iff.mp pressed
    obtain ⟨rfl, rfl⟩ := Prod.mk.inj moved
    exact ⟨rfl, rfl, rfl⟩
  -- No other key does anything to the buffer.
  all_goals
    simp only [press?, typed, Option.some.injEq, Prod.mk.injEq] at pressed
    obtain ⟨rfl, rfl⟩ := pressed
    exact ⟨rfl, rfl, rfl⟩

/-- Putting in a character leaves the field the same. -/
theorem field_insert? {after : EditBuffer} {c : Char} (inserted : buffer.insert? c = some after) :
    after.field = buffer.field := by
  -- The text is cut at the cursor, and nothing but the text and the cursor changes.
  obtain ⟨_, _, rfl⟩ := Option.map_eq_some_iff.mp inserted
  rfl

/-- Removing a piece of the text leaves the field the same. -/
theorem field_removeFrom? {after : EditBuffer} {start : Nat}
    (removed : buffer.removeFrom? start = some after) : after.field = buffer.field := by
  -- Both cuts give a text, and the field is taken over from before.
  obtain ⟨_, _, rest⟩ := Option.bind_eq_some_iff.mp removed
  obtain ⟨_, _, same⟩ := Option.bind_eq_some_iff.mp rest
  exact Option.some.inj same ▸ rfl

/-- Removing a character leaves the field the same. -/
theorem field_backspace? {after : EditBuffer} (removed : buffer.backspace? = some after) :
    after.field = buffer.field := by
  unfold backspace? at removed
  split at removed
  · exact Option.some.inj removed ▸ rfl
  · -- Before the cursor there is a boundary from which the piece is removed.
    obtain ⟨_, _, rest⟩ := Option.bind_eq_some_iff.mp removed
    exact field_removeFrom? rest

/-- Removing the next character leaves the field the same. -/
theorem field_delete? {after : EditBuffer} (removed : buffer.delete? = some after) :
    after.field = buffer.field := by
  unfold delete? at removed
  split at removed
  · exact Option.some.inj removed ▸ rfl
  · -- Otherwise the text behind the cursor loses its first character.
    obtain ⟨_, _, rfl⟩ := Option.map_eq_some_iff.mp removed
    rfl

/-- Whatever a key does to a buffer, it stays one of the same field. -/
theorem field_press? {after : EditBuffer} {finished : Bool}
    (pressed : buffer.press? press = some (after, finished)) : after.field = buffer.field := by
  -- A key that is an operation on the text goes on with its result.
  have kept : ∀ {result? : Option EditBuffer},
      (∀ next, result? = some next → next.field = buffer.field) →
      result?.map (·, false) = some (after, finished) → after.field = buffer.field := by
    intro result? keeps found
    obtain ⟨next, changed, pair⟩ := Option.map_eq_some_iff.mp found
    exact (Prod.mk.inj pair).1 ▸ keeps next changed
  cases typed : press.key <;> simp only [press?, typed] at pressed
  case char c =>
    -- A letter is put in, removes a word, clears the text, or has no meaning.
    split at pressed
    · exact kept (fun _ => field_insert?) pressed
    · split at pressed
      · refine kept (fun _ removed => ?_) pressed
        obtain ⟨_, _, rest⟩ := Option.bind_eq_some_iff.mp removed
        exact field_removeFrom? rest
      · split at pressed <;> exact (Prod.mk.inj (Option.some.inj pressed)).1 ▸ rfl
  case enter =>
    split at pressed
    · exact kept (fun _ => field_insert?) pressed
    · exact (Prod.mk.inj (Option.some.inj pressed)).1 ▸ rfl
  case backspace => exact kept (fun _ => field_backspace?) pressed
  case delete => exact kept (fun _ => field_delete?) pressed
  case left | right =>
    obtain ⟨_, _, pair⟩ := Option.map_eq_some_iff.mp pressed
    exact (Prod.mk.inj pair).1 ▸ rfl
  all_goals exact (Prod.mk.inj (Option.some.inj pressed)).1 ▸ rfl

end EditBuffer

namespace Terminal

/-- Whether keys edit a field, of which some text stands in the buffer. -/
def Edits (terminal : Terminal) (field : Field) (text : String) : Prop :=
  ∃ buffer, terminal.mode = .editing buffer ∧ buffer.field = field ∧ buffer.text = text

variable {terminal : Terminal} (dispatcher : Dispatcher) (now : Instant) (written : Bool)

/-- Moving the focus does not change what keys are for. -/
theorem mode_moveFocus (down : Bool) : (terminal.moveFocus down).mode = terminal.mode := by
  -- Only the focus or the selection moves.
  rw [moveFocus_eq]

/-- Only the command to edit changes what keys are for. -/
theorem mode_perform {command : Command} (other : command ≠ .edit) :
    ((terminal.perform dispatcher now command).result written).terminal.mode = terminal.mode := by
  cases command with
  | edit => exact absurd rfl other
  | focusUp => exact mode_moveFocus false
  | focusDown => exact mode_moveFocus true
  | quit | cycle turn | go tab | toggleApiKey | scroll rows | run trigger => rfl

/-- A key that opens an edit copies the text of a field and leaves the panel as it is. -/
theorem press_opens {press : KeyPress} {buffer : EditBuffer} (normal : terminal.mode = .normal)
    (opens : ((terminal.press dispatcher now press).result written).terminal.mode =
      .editing buffer) :
    ((terminal.press dispatcher now press).result written).started = none ∧
      ((terminal.press dispatcher now press).result written).terminal.panel = terminal.panel ∧
      buffer.text = terminal.panel.inputs.get buffer.field := by
  -- Of all commands only the one to edit can have opened the edit.
  simp only [Terminal.press, normal] at opens ⊢
  cases meant : Command.ofPress? terminal.panel press with
  | none => simp [meant, Saving.of, Step.changing, normal] at opens
  | some command =>
    simp only [meant] at opens ⊢
    by_cases edits : command = .edit
    · -- The edit opens on the field that has the focus.
      subst edits
      have opened : terminal.beginEdit.mode = .editing buffer := opens
      refine ⟨rfl, terminal.panel_beginEdit, ?_⟩
      -- The buffer is filled from the field that has the focus.
      unfold beginEdit at opened
      split at opened
      · obtain rfl : _ = buffer := by simpa using opened
        rfl
      · simp [normal] at opened
    · -- After any other command keys are commands still.
      rw [mode_perform dispatcher now written edits, normal] at opens
      simp at opens

/-- A key that keeps the text of an edit leaves the panel as it is and the edit open. -/
theorem press_keepsText {press : KeyPress} {field : Field} {text : String}
    (edits : terminal.Edits field text) (keeps : press.changesText field = false)
    (stays : press.finishes field = false) :
    let step := (terminal.press dispatcher now press).result written
    step.started = none ∧ step.terminal.panel = terminal.panel ∧
      step.terminal.Edits field text := by
  obtain ⟨buffer, mode, rfl, rfl⟩ := edits
  -- The key is lost on a cursor inside a character, and moves it at most otherwise.
  simp only [Terminal.press, mode, editPress]
  cases pressed : buffer.press? press with
  | none => exact ⟨rfl, rfl, buffer, mode, rfl, rfl⟩
  | some result =>
    obtain ⟨after, finished⟩ := result
    obtain ⟨rfl, sameField, sameText⟩ := EditBuffer.press?_of_keepsText keeps stays pressed
    exact ⟨rfl, rfl, after, rfl, sameField, sameText⟩

/-- A key that finishes an edit writes the text of the buffer into the field. -/
theorem press_finishes {press : KeyPress} {field : Field} {text : String}
    (edits : terminal.Edits field text) (finishes : press.finishes field = true) :
    let step := (terminal.press dispatcher now press).result written
    step.started = none ∧ step.terminal.mode = .normal ∧
      step.terminal.panel.inputs = terminal.panel.inputs.set field text := by
  -- The buffer as it stands is taken over into the field as it stands now.
  obtain ⟨buffer, mode, rfl, rfl⟩ := edits
  simp only [Terminal.press, mode, editPress, EditBuffer.press?_of_finishes finishes]
  exact ⟨rfl, rfl, terminal.panel.inputs_setInput _ _ written⟩

end Terminal

end StackPanel

import StackPanel.Proofs.Terminal.Edit

/-! What a key can do to the contents of the fields. -/

namespace StackPanel

/-- Only a key that finishes an edit ends it, and it leaves the buffer as it is. -/
theorem EditBuffer.finishes_of_press? {buffer after : EditBuffer} {press : KeyPress}
    (pressed : buffer.press? press = some (after, true)) :
    press.finishes buffer.field = true ∧ after = buffer := by
  cases finishes : press.finishes buffer.field with
  | true =>
    rw [press?_of_finishes finishes] at pressed
    simpa [eq_comm] using pressed
  | false =>
    -- Every other key keeps the edit open, whatever it does to the text.
    exfalso
    -- A key that finishes nothing is either typed or moves the cursor.
    cases typed : press.key
    case escape => simp [KeyPress.finishes, typed] at finishes
    case enter =>
      have multiline : buffer.field.isMultiline = true := by
        simpa [KeyPress.finishes, typed] using finishes
      simp [press?, typed, multiline] at pressed
    case char c =>
      simp only [press?, typed] at pressed
      split at pressed
      · simp at pressed
      · split at pressed
        · simp at pressed
        · split at pressed <;> simp at pressed
    all_goals simp [press?, typed] at pressed

/-- Filling in a field never changes which stack was created last. -/
@[simp] theorem Inputs.lastStackId_set (inputs : Inputs) (field : Field) (text : String) :
    (inputs.set field text).lastStackId = inputs.lastStackId := by
  -- No field is that of the stack created last.
  cases field <;> rfl

namespace Terminal

variable (terminal : Terminal) (now : Instant)

/-- Starting an action leaves the inputs alone. -/
theorem inputs_launch (trigger : ActionTrigger) :
    (terminal.launch .standard now trigger).terminal.panel.inputs = terminal.panel.inputs := by
  -- To start an action takes the lock and writes the record.
  obtain ⟨isBusy, console, launched⟩ := terminal.panel_launch now trigger
  rw [launched]

/-- Moving the focus leaves the inputs alone. -/
theorem inputs_moveFocus (down : Bool) :
    (terminal.moveFocus down).panel.inputs = terminal.panel.inputs := by
  -- Only the focus and the selection move.
  rw [moveFocus_eq]

/-- A key changes the inputs only if it finishes an edit, whose text then goes into its field, or is
the command that chooses whether the key of the service is sent. -/
theorem inputs_press (press : KeyPress) (written : Bool) :
    ((terminal.press .standard now press).result written).terminal.panel.inputs =
      match terminal.mode with
      | .editing buffer =>
        if press.finishes buffer.field then terminal.panel.inputs.set buffer.field buffer.text
        else terminal.panel.inputs
      | .normal =>
        if Command.ofPress? terminal.panel press = some .toggleApiKey then
          { terminal.panel.inputs with sendsApiKey := !terminal.panel.inputs.sendsApiKey }
        else terminal.panel.inputs := by
  simp only [Terminal.press]
  cases mode : terminal.mode with
  | editing buffer =>
    -- The buffer is no part of the inputs until the edit ends.
    simp only [editPress]
    cases finishes : press.finishes buffer.field with
    | true =>
      rw [EditBuffer.press?_of_finishes finishes, if_pos rfl]
      exact terminal.panel.inputs_setInput _ _ written
    | false =>
      -- The edit goes on, so nothing has been written.
      rw [if_neg Bool.false_ne_true]
      cases pressed : buffer.press? press with
      | none => rfl
      | some result =>
        obtain ⟨after, finished⟩ := result
        cases finished with
        | false => rfl
        | true =>
          -- The edit is over only if the key finishes one of its field.
          have ends := (EditBuffer.finishes_of_press? pressed).1
          rw [finishes] at ends
          contradiction
  | normal =>
    -- Of the commands only one is about the inputs.
    cases Command.ofPress? terminal.panel press with
    | none => rfl
    | some command =>
      cases command with
      | toggleApiKey => rfl
      | run trigger => exact terminal.inputs_launch now trigger
      | focusUp => exact terminal.inputs_moveFocus false
      | focusDown => exact terminal.inputs_moveFocus true
      | edit =>
        -- An edit that opens copies the text of its field.
        show terminal.beginEdit.panel.inputs = terminal.panel.inputs
        rw [panel_beginEdit]
      | quit | cycle turn | go tab | scroll rows => rfl

/-- No key changes which stack was created last. -/
theorem lastStackId_press (press : KeyPress) (written : Bool) :
    ((terminal.press .standard now press).result written).terminal.panel.inputs.lastStackId =
      terminal.panel.inputs.lastStackId := by
  -- No text that a key writes goes there, since no field shows it.
  rw [terminal.inputs_press]
  split
  · split
    · exact Inputs.lastStackId_set ..
    · rfl
  · split <;> rfl

end Terminal

end StackPanel

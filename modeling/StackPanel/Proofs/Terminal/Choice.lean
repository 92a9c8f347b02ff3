import StackPanel.Proofs.Terminal.Edit
import StackPanel.Proofs.Terminal.Inputs

/-! Which of the kept choices a key makes: a tab, a key of the service, or whether that is sent. -/

namespace StackPanel

/-- Makes a choice, if there is one to make. -/
def Preferences.choose (preferences : Preferences) :
    Option (PreferenceKey × String) → Saving Preferences
  | none => .of preferences
  | some (key, value) => preferences.set key value

/-- Whether a result writes what some kept choices do, and comes with them. -/
def Saving.Saves {α : Type} (saving : Saving α) (view : α → Preferences)
    (choices : Saving Preferences) : Prop :=
  saving.text = choices.text ∧ ∀ written, view (saving.result written) = choices.result written

/-- The choice that a command makes. -/
def Command.choice? (panel : Panel) : Command → Option (PreferenceKey × String)
  | .cycle turn => some (.activeTab, (panel.tab.neighbour turn).id)
  | .go tab => some (.activeTab, tab.id)
  | .toggleApiKey => some (.sendsApiKey, if !panel.inputs.sendsApiKey then "true" else "false")
  | _ => none

namespace Terminal

/-- The choice that a key makes: the end of an edit that of a key of the service, and a command its
own. -/
def choice? (terminal : Terminal) (press : KeyPress) : Option (PreferenceKey × String) :=
  match terminal.mode with
  | .editing buffer =>
    if buffer.field = .apiKey ∧ press.finishes buffer.field = true then
      some (.apiKey, buffer.text)
    else none
  | .normal =>
    (Command.ofPress? terminal.panel press).bind (Command.choice? terminal.panel)

variable (terminal : Terminal) (now : Instant)

/-- Moving the focus makes no choice. -/
theorem preferences_moveFocus (down : Bool) :
    (terminal.moveFocus down).panel.preferences = terminal.panel.preferences := by
  -- The terminal differs in its focus or its selection.
  rw [moveFocus_eq]

/-- A command saves the choice that it makes. -/
theorem perform_saves (command : Command) :
    (terminal.perform .standard now command).Saves (·.terminal.panel.preferences)
      (terminal.panel.preferences.choose (command.choice? terminal.panel)) := by
  cases command with
  -- These two make no choice and save nothing.
  | quit | scroll rows => exact ⟨rfl, fun _ => rfl⟩
  | cycle turn | go tab | toggleApiKey => exact ⟨rfl, fun _ => rfl⟩
  | focusUp => exact ⟨rfl, fun _ => terminal.preferences_moveFocus false⟩
  | focusDown => exact ⟨rfl, fun _ => terminal.preferences_moveFocus true⟩
  | edit => exact ⟨rfl, fun _ => congrArg Panel.preferences terminal.panel_beginEdit⟩
  | run trigger =>
    -- An action changes the lock and the console at most.
    obtain ⟨_, _, launched⟩ := terminal.panel_launch now trigger
    refine ⟨rfl, fun _ => ?_⟩
    show (terminal.launch .standard now trigger).terminal.panel.preferences = _
    rw [launched]
    rfl

/-- A key for the field that is edited saves the choice that the end of the edit makes. -/
theorem editPress_saves (buffer : EditBuffer) (press : KeyPress) :
    (terminal.editPress buffer press).Saves (·.panel.preferences)
      (terminal.panel.preferences.choose
        (if buffer.field = .apiKey ∧ press.finishes buffer.field = true then
          some (.apiKey, buffer.text) else none)) := by
  unfold editPress
  cases finishes : press.finishes buffer.field with
  | true =>
    -- The buffer that is committed is the one that was open.
    rw [EditBuffer.press?_of_finishes finishes]
    simp only [commitEdit, Panel.setInput]
    -- Of the fields only the one of the key is kept.
    by_cases isKey : buffer.field = .apiKey
    · simp only [isKey, and_self, if_true]
      exact ⟨rfl, fun _ => rfl⟩
    · simp only [isKey, false_and, if_false]
      exact ⟨rfl, fun _ => rfl⟩
  | false =>
    -- Without its end the edit stays in the buffer.
    rw [if_neg (by simp)]
    split
    · exact ⟨rfl, fun _ => rfl⟩
    · next after pressed =>
      -- A key that does not finish the edit cannot have finished it.
      rw [(EditBuffer.finishes_of_press? pressed).1] at finishes
      contradiction
    · exact ⟨rfl, fun _ => rfl⟩

/-- A key saves the choice that it makes. -/
theorem press_saves (press : KeyPress) :
    (terminal.press .standard now press).Saves (·.terminal.panel.preferences)
      (terminal.panel.preferences.choose (terminal.choice? press)) := by
  unfold Terminal.press choice?
  -- A key belongs to the edit, if there is one, and else to a command.
  cases terminal.mode with
  | editing buffer => exact terminal.editPress_saves buffer press
  | normal =>
    simp only
    cases Command.ofPress? terminal.panel press with
    -- A key without a meaning changes nothing and saves nothing.
    | none => exact ⟨rfl, fun _ => rfl⟩
    | some command => exact terminal.perform_saves now command

end Terminal

end StackPanel

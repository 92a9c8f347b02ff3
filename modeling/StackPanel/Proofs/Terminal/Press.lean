import StackPanel.Proofs.Action.Dispatcher
import StackPanel.Terminal.Basic

/-! What a key can do to the panel: start an action, or rearrange what no action depends on. -/

namespace StackPanel

/-- Of two panels the second shows the same action and the same list as the first. -/
structure Panel.Rearranges (before after : Panel) : Prop where
  isBusy : after.isBusy = before.isBusy
  console : after.console = before.console
  content : after.stackList.content = before.stackList.content

namespace Panel

/-- A panel shows what it shows. -/
theorem Rearranges.refl (panel : Panel) : panel.Rearranges panel := ⟨rfl, rfl, rfl⟩

/-- What a key that runs no action can make of a panel. -/
inductive Adjusts (before : Panel) : Panel → Prop where
  | same : Adjusts before before
  | fills (field : Field) (text : String) (written : Bool) :
    Adjusts before ((before.setInput field text).result written)
  | goes (tab : Tab) (written : Bool) : Adjusts before ((before.activate tab).result written)
  | toggles (written : Bool) : Adjusts before (before.toggleApiKey.result written)
  | selects (list : StackList)
    (moved : list = before.stackList.selectNext ∨ list = before.stackList.selectPrevious) :
    Adjusts before { before with stackList := list }

/-- Filling in a field changes that input, and at most the kept choices with it. -/
theorem result_setInput (panel : Panel) (field : Field) (text : String) (written : Bool) :
    (panel.setInput field text).result written =
      { panel with
        inputs := panel.inputs.set field text
        preferences := ((panel.setInput field text).result written).preferences } := by
  -- A key is saved as well, which is told by the choices alone.
  unfold setInput
  split <;> rfl

/-- Whatever such a key makes of a panel rearranges it at most. -/
theorem Adjusts.rearranges {before after : Panel} (adjusts : before.Adjusts after) :
    before.Rearranges after := by
  cases adjusts with
  | same => exact .refl _
  | fills field text written =>
    -- It makes no difference whether a key could be saved.
    rw [before.result_setInput]
    exact ⟨rfl, rfl, rfl⟩
  | goes tab written => exact ⟨rfl, rfl, rfl⟩
  | toggles written => exact ⟨rfl, rfl, rfl⟩
  | selects list moved =>
    refine ⟨rfl, rfl, ?_⟩
    rcases moved with rfl | rfl
    · -- The selection moves down only where there is a card.
      unfold StackList.selectNext
      split <;> rfl
    · rfl

/-- A key that runs no action leaves the configured address and the shape of ports as they are. -/
theorem Adjusts.configured {before after : Panel} (adjusts : before.Adjusts after) :
    after.origin = before.origin ∧ after.encoding = before.encoding := by
  cases adjusts with
  | same | goes tab written | toggles written | selects list moved => exact ⟨rfl, rfl⟩
  | fills field text written =>
    -- The text is replaced whether or not it is one that is saved.
    rw [before.result_setInput]
    exact ⟨rfl, rfl⟩

/-- Only the key is saved when it is filled in. -/
theorem setInput_of_ne (panel : Panel) {field : Field} (other : field ≠ .apiKey) (text : String) :
    panel.setInput field text = .of { panel with inputs := panel.inputs.set field text } := by
  rw [setInput, if_neg other]

/-- Filling in a field changes that input alone. -/
theorem inputs_setInput (panel : Panel) (field : Field) (text : String) (written : Bool) :
    ((panel.setInput field text).result written).inputs = panel.inputs.set field text := by
  rw [result_setInput]

end Panel

/-- Only plain characters stand for actions. -/
theorem Command.key_of_run {panel : Panel} {press : KeyPress} {trigger : ActionTrigger}
    (runs : ofPress? panel press = some (.run trigger)) :
    press.control = false ∧ ∃ c, press.key = .char c := by
  have plain : press.control = false := by
    -- With the control key held there is one command, and it closes the panel.
    cases held : press.control with
    | false => rfl
    | true => by_cases quits : press.key = .char 'c' <;> simp [ofPress?, held, quits] at runs
  -- Every key that is no character has a command of its own, or none.
  refine ⟨plain, ?_⟩
  cases typed : press.key
  case char c => exact ⟨c, rfl⟩
  all_goals simp [ofPress?, plain, typed, editOn?] at runs

/-- A plain character never ends an edit. -/
theorem EditBuffer.press?_char {buffer after : EditBuffer} {press : KeyPress} {c : Char}
    {finished : Bool} (plain : press.control = false) (typed : press.key = .char c)
    (pressed : buffer.press? press = some (after, finished)) : finished = false := by
  simp only [press?, typed, plain] at pressed
  obtain ⟨_, _, same⟩ := Option.map_eq_some_iff.mp pressed
  exact (Prod.mk.inj same).2.symm

namespace Terminal

variable (dispatcher : Dispatcher) (terminal : Terminal) (now : Instant)

/-- Moving the focus touches it and the list alone. -/
theorem moveFocus_eq (down : Bool) :
    terminal.moveFocus down =
      { terminal with
        focus := (terminal.moveFocus down).focus
        panel := { terminal.panel with stackList := (terminal.moveFocus down).panel.stackList } } := by
  -- It moves over the cards on the list, and over the fields on every other tab.
  unfold moveFocus
  split
  · rfl
  · simp only
    split
    · rfl
    · split <;> rfl

/-- Moving the focus selects another card at most. -/
theorem moveFocus_adjusts (down : Bool) :
    terminal.panel.Adjusts (terminal.moveFocus down).panel := by
  -- On the list the selection moves, and on every other tab the panel stays as it is.
  unfold moveFocus
  split
  · cases down with
    | false => exact .selects _ (.inr rfl)
    | true => exact .selects _ (.inl rfl)
  · simp only
    split
    · exact .same
    · split <;> exact .same

/-- Asking for an action changes the lock and the console of the panel at most. -/
theorem panel_launch (trigger : ActionTrigger) :
    ∃ isBusy console, (terminal.launch .standard now trigger).terminal.panel =
      { terminal.panel with isBusy, console } := by
  unfold launch
  cases busy : terminal.panel.isBusy with
  | true =>
    -- The refusal hands the same panel back.
    rw [Dispatcher.dispatch_busy _ busy]
    exact ⟨_, _, rfl⟩
  | false =>
    rcases Dispatcher.standard_dispatch_idle busy now trigger with same | ⟨calls, -, same⟩
    · rw [same]
      exact ⟨_, _, rfl⟩
    · rw [same]
      exact ⟨_, _, rfl⟩

/-- Starting an edit leaves the panel as it is. -/
theorem panel_beginEdit : terminal.beginEdit.panel = terminal.panel := by
  unfold beginEdit
  split <;> rfl

/-- A command that runs no action starts none and adjusts the panel at most. -/
theorem perform_adjusts {command : Command} (other : ∀ trigger, command ≠ .run trigger)
    (written : Bool) :
    ((terminal.perform dispatcher now command).result written).started = none ∧
      terminal.panel.Adjusts
        ((terminal.perform dispatcher now command).result written).terminal.panel := by
  cases command with
  | run trigger => exact absurd rfl (other trigger)
  | quit => exact ⟨rfl, .same⟩
  | cycle turn => exact ⟨rfl, .goes _ written⟩
  | go tab => exact ⟨rfl, .goes tab written⟩
  | focusUp => exact ⟨rfl, terminal.moveFocus_adjusts false⟩
  | focusDown => exact ⟨rfl, terminal.moveFocus_adjusts true⟩
  | edit =>
    -- The buffer is no part of the panel, so it is the same panel.
    refine ⟨rfl, ?_⟩
    show terminal.panel.Adjusts terminal.beginEdit.panel
    rw [panel_beginEdit]
    exact .same
  | toggleApiKey => exact ⟨rfl, .toggles written⟩
  | scroll rows => exact ⟨rfl, .same⟩

/-- A key for a field that is edited adjusts the panel at most. -/
theorem editPress_adjusts (buffer : EditBuffer) (press : KeyPress) (written : Bool) :
    terminal.panel.Adjusts ((terminal.editPress buffer press).result written).panel := by
  -- Only a finished edit reaches the panel, as the text of its field.
  unfold editPress
  split
  · exact .same
  · exact .fills _ _ written
  · exact .same

/-- A key either runs an action, or it starts none and adjusts the panel at most. -/
theorem press_cases (press : KeyPress) (written : Bool) :
    (∃ trigger, terminal.mode = .normal ∧
      Command.ofPress? terminal.panel press = some (.run trigger) ∧
      (terminal.press dispatcher now press).result written =
        terminal.launch dispatcher now trigger) ∨
    ((terminal.press dispatcher now press).result written).started = none ∧
      terminal.panel.Adjusts
        ((terminal.press dispatcher now press).result written).terminal.panel := by
  -- A key goes to the field that is edited, or it is looked up as a command.
  unfold Terminal.press
  cases mode : terminal.mode with
  | editing buffer => exact .inr ⟨rfl, terminal.editPress_adjusts buffer press written⟩
  | normal =>
    simp only
    cases meant : Command.ofPress? terminal.panel press with
    | none => exact .inr ⟨rfl, .same⟩
    | some command =>
      by_cases runs : ∃ trigger, command = .run trigger
      · obtain ⟨trigger, rfl⟩ := runs
        exact .inl ⟨trigger, trivial, rfl, rfl⟩
      · -- Whatever is not launched reaches no action and shows none.
        have other : ∀ trigger, command ≠ .run trigger := fun trigger same => runs ⟨trigger, same⟩
        exact .inr (terminal.perform_adjusts dispatcher now other written)

/-- A plain character for a field that is edited leaves the panel as it is. -/
theorem panel_editPress_char (buffer : EditBuffer) {press : KeyPress} {c : Char}
    (plain : press.control = false) (typed : press.key = .char c) (written : Bool) :
    ((terminal.editPress buffer press).result written).panel = terminal.panel := by
  -- Only a finished edit could reach the panel, and a character finishes none.
  unfold editPress
  split
  · rfl
  · rename_i pressed
    exact absurd (EditBuffer.press?_char plain typed pressed) (by simp)
  · rfl

/-- On a busy panel a key that stands for an action starts nothing and changes nothing there, be it
pressed as a command or into a field. -/
theorem press_run_busy {press : KeyPress} {trigger : ActionTrigger}
    (busy : terminal.panel.isBusy = true)
    (runs : Command.ofPress? terminal.panel press = some (.run trigger)) (written : Bool) :
    ((terminal.press dispatcher now press).result written).started = none ∧
      ((terminal.press dispatcher now press).result written).terminal.panel = terminal.panel := by
  unfold Terminal.press
  cases terminal.mode with
  | editing buffer =>
    -- What would run an action as a command is typed into the field instead.
    obtain ⟨plain, c, typed⟩ := Command.key_of_run runs
    exact ⟨rfl, terminal.panel_editPress_char buffer plain typed written⟩
  | normal =>
    -- It is launched, and the dispatcher refuses it on sight of the lock.
    simp only [runs, perform, Saving.of, launch, dispatcher.dispatch_busy busy]
    exact ⟨trivial, trivial⟩

end Terminal

end StackPanel

import StackPanel.Proofs.Panel.Complete
import StackPanel.Proofs.Terminal.Edit

/-! The focus stays among the fields of the active tab, and an edit on the field that has it. -/

namespace StackPanel.Terminal

/-- Whether the focus is on the first position or on a field of the active tab, and an open edit is
one of that field. -/
structure KeepsFocus (terminal : Terminal) : Prop where
  inRange : terminal.focus = 0 ∨ terminal.focus < terminal.panel.tab.fields.length
  edited : ∀ buffer, terminal.mode = .editing buffer →
    terminal.focusedField? = some buffer.field

variable {terminal : Terminal}

/-- While no edit is open only the position of the focus counts. -/
theorem KeepsFocus.of_normal (normal : terminal.mode = .normal)
    (inRange : terminal.focus = 0 ∨ terminal.focus < terminal.panel.tab.fields.length) :
    terminal.KeepsFocus where
  inRange := inRange
  -- Without an edit there is nothing to ask of its field.
  edited buffer editing := by simp [normal] at editing

/-- The focus is kept where neither it nor the active tab nor the mode has changed. -/
theorem KeepsFocus.of_same (kept : terminal.KeepsFocus) {after : Terminal}
    (focus : after.focus = terminal.focus) (tab : after.panel.tab = terminal.panel.tab)
    (mode : after.mode = terminal.mode) : after.KeepsFocus where
  inRange := by
    rw [focus, tab]
    exact kept.inRange
  edited buffer editing := by
    rw [mode] at editing
    -- What has the focus is found by its position in the tab.
    rw [focusedField?, focus, tab]
    exact kept.edited buffer editing

/-- Filling in a field leaves the active tab as it is. -/
theorem tab_setInput (panel : Panel) (field : Field) (text : String) (written : Bool) :
    ((panel.setInput field text).result written).tab = panel.tab := by
  rw [panel.result_setInput]

/-- The focus moves among the fields of the active tab. -/
theorem inRange_moveFocus
    (inRange : terminal.focus = 0 ∨ terminal.focus < terminal.panel.tab.fields.length)
    (down : Bool) :
    (terminal.moveFocus down).focus = 0 ∨
      (terminal.moveFocus down).focus < (terminal.moveFocus down).panel.tab.fields.length := by
  unfold moveFocus
  split
  · -- On a tab without fields the focus does not move at all.
    exact inRange
  · simp only
    split
    · exact inRange
    · next filled =>
      -- A step down stops at the last field, and one up at the first.
      cases down with
      | true =>
        right
        simp only [if_true]
        omega
      | false =>
        simp only [Bool.false_eq_true, if_false]
        omega

/-- An edit opens on the field that has the focus. -/
theorem KeepsFocus.beginEdit (kept : terminal.KeepsFocus) : terminal.beginEdit.KeepsFocus := by
  unfold Terminal.beginEdit
  split
  · next field focused =>
    -- The buffer that was opened is for the field that had the focus.
    refine ⟨kept.inRange, fun buffer editing => ?_⟩
    obtain rfl : EditBuffer.ofField field _ = buffer := by simpa using editing
    exact focused
  · -- On a tab without fields no edit opens, and nothing has changed.
    exact kept

/-- A command keeps the focus. -/
theorem KeepsFocus.perform (kept : terminal.KeepsFocus) (normal : terminal.mode = .normal)
    (now : Instant) (command : Command) (written : Bool) :
    ((terminal.perform .standard now command).result written).terminal.KeepsFocus := by
  cases command with
  -- These touch neither the focus nor the tab, and open no edit.
  | quit | scroll rows | toggleApiKey => exact kept.of_same rfl rfl rfl
  -- Another tab takes the focus back to the first position.
  | cycle turn | go tab => exact .of_normal normal (.inl rfl)
  | focusUp =>
    exact .of_normal ((mode_moveFocus false).trans normal) (inRange_moveFocus kept.inRange false)
  | focusDown =>
    exact .of_normal ((mode_moveFocus true).trans normal) (inRange_moveFocus kept.inRange true)
  | edit => exact kept.beginEdit
  | run trigger =>
    obtain ⟨isBusy, console, launched⟩ := terminal.panel_launch now trigger
    -- The start of an action touches the lock and the console alone.
    refine kept.of_same rfl ?_ rfl
    show (terminal.launch .standard now trigger).terminal.panel.tab = terminal.panel.tab
    rw [launched]

/-- A key for an open edit keeps the focus, and the edit stays one of its field or ends. -/
theorem KeepsFocus.editPress (kept : terminal.KeepsFocus) {buffer : EditBuffer}
    (editing : terminal.mode = .editing buffer) (press : KeyPress) (written : Bool) :
    ((terminal.editPress buffer press).result written).KeepsFocus := by
  unfold Terminal.editPress
  split
  · exact kept
  · next after pressed =>
    -- The edit is over, and what it wrote is no tab.
    have tab : ((terminal.panel.setInput after.field after.text).result written).tab =
        terminal.panel.tab := tab_setInput ..
    refine .of_normal rfl ?_
    simp only [commitEdit, Saving.map, tab]
    exact kept.inRange
  · next after pressed =>
    refine ⟨kept.inRange, fun open_ still => ?_⟩
    -- A key that goes on with the edit keeps its field.
    obtain rfl : after = open_ := by simpa [Saving.of] using still
    rw [EditBuffer.field_press? pressed]
    exact kept.edited buffer editing

/-- A key keeps the focus. -/
theorem KeepsFocus.press (kept : terminal.KeepsFocus) (now : Instant) (press : KeyPress)
    (written : Bool) :
    ((terminal.press .standard now press).result written).terminal.KeepsFocus := by
  unfold Terminal.press
  cases mode : terminal.mode with
  | editing buffer => exact kept.editPress mode press written
  | normal =>
    simp only
    cases Command.ofPress? terminal.panel press with
    | none => exact kept
    | some command => exact kept.perform mode now command written

/-- The end of an action keeps the focus, be it in the middle of an edit. -/
theorem KeepsFocus.deliver (kept : terminal.KeepsFocus) (now : Instant) (completion : Completion) :
    (terminal.deliver now completion).KeepsFocus := by
  refine kept.of_same rfl ?_ rfl
  simp only [Terminal.deliver, Panel.complete_eq]

end StackPanel.Terminal

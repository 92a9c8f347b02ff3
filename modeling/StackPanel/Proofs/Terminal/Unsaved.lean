import StackPanel.Proofs.Panel.Complete
import StackPanel.Proofs.Terminal.Press

/-! Whether choices reach the disk has no part in what the panel does: every operation does the same
on the core of a terminal, which has no disk and whose clock stands still. -/

namespace StackPanel

/-- The time at which a clock stands still. -/
def Instant.epoch : Instant :=
  .ofUnixMilliseconds 0

/-- The same choices without a disk. -/
def Preferences.inMemory (preferences : Preferences) : Preferences :=
  { preferences with isAvailable := false }

/-- The same record, made while the clock stands still. -/
def ConsoleRecord.timeless (record : ConsoleRecord) : ConsoleRecord :=
  { record with stamp := record.stamp.map fun _ => .epoch }

/-- A panel without its disk and its clock. -/
def Panel.core (panel : Panel) : Panel :=
  { panel with preferences := panel.preferences.inMemory, console := panel.console.timeless }

/-- A terminal without its disk and its clock. -/
def Terminal.core (terminal : Terminal) : Terminal :=
  { terminal with panel := terminal.panel.core }

/-- A step without its disk and its clock. -/
def Terminal.Step.core (step : Terminal.Step) : Terminal.Step :=
  { step with terminal := step.terminal.core }

/-- A choice counts whether or not it can be written. -/
theorem Preferences.inMemory_set (preferences : Preferences) (key : PreferenceKey) (value : String)
    (written : Bool) :
    ((preferences.set key value).result written).inMemory =
      (preferences.inMemory.set key value).result false := by
  -- A store that is not available stays so, and one that is may fail to write.
  cases available : preferences.isAvailable <;> simp [set, inMemory, available, Saving.of]

namespace Panel

variable (panel : Panel)

/-- A field is filled in whether or not a key can be written. -/
theorem core_setInput (field : Field) (text : String) (written : Bool) :
    ((panel.setInput field text).result written).core =
      (panel.core.setInput field text).result false := by
  -- No field but the key is written at all.
  have saved := panel.preferences.inMemory_set .apiKey text written
  by_cases isKey : field = .apiKey
  · simp only [setInput, isKey, if_true, Saving.map, core, saved]
  · rw [panel.setInput_of_ne isKey, panel.core.setInput_of_ne isKey]
    rfl

/-- The sending of the key changes whether or not that can be written. -/
theorem core_toggleApiKey (written : Bool) :
    (panel.toggleApiKey.result written).core = panel.core.toggleApiKey.result false := by
  -- The choice is flipped from the value in memory, which both have.
  simp only [toggleApiKey, Preferences.setBool, Saving.map, core, Preferences.inMemory_set]
  rfl

/-- A tab becomes active whether or not that can be written. -/
theorem core_activate (tab : Tab) (written : Bool) :
    ((panel.activate tab).result written).core = (panel.core.activate tab).result false := by
  simp only [activate, Saving.map, core, Preferences.inMemory_set]

/-- The neighbour of the active tab becomes active whether or not that can be written. -/
theorem core_cycle (turn : Turn) (written : Bool) :
    ((panel.cycle turn).result written).core = (panel.core.cycle turn).result false :=
  panel.core_activate (panel.tab.neighbour turn) written

/-- The record of an end is the same at any time. -/
theorem timeless_endRecord (now : Instant) (title : String)
    (result : Except ActionError ActionOutput) :
    (endRecord now title result).timeless = endRecord .epoch title result := by
  -- Only the stamp of the record has the time in it.
  cases result <;> rfl

/-- An action ends in the same way with a disk and without, at any time. -/
theorem core_complete (now : Instant) (completion : Completion) :
    (panel.complete now completion).core = panel.core.complete .epoch completion := by
  -- Neither the list nor the fields come from the disk.
  have listed := panel.stackList_showListing_congr panel.core rfl completion.outcome.listing
  have inputs := panel.inputsAfter_congr panel.core rfl completion.outcome.createdId?
  rw [complete_eq, complete_eq, listed, inputs]
  simp [core, timeless_endRecord]

/-- The same action starts with a disk and without, from the same inputs. -/
theorem core_dispatch (now : Instant) (trigger : ActionTrigger) :
    let dispatched := Dispatcher.standard.dispatch panel now trigger
    Dispatcher.standard.dispatch panel.core .epoch trigger = (dispatched.1.core, dispatched.2) := by
  -- The core is as busy as the panel.
  have lock : panel.core.isBusy = panel.isBusy := rfl
  -- The lock and the action decide, and neither has a part in the disk.
  cases busy : panel.isBusy with
  | true => simp [Dispatcher.dispatch, lock, busy]
  | false =>
    simp only [Dispatcher.dispatch, lock, busy]
    -- Every action reads the panel in the same way, whichever handler it has.
    cases trigger.id <;> rfl

end Panel

namespace Terminal

variable (terminal : Terminal)

/-- Moving the focus does the same. -/
theorem core_moveFocus (down : Bool) :
    (terminal.moveFocus down).core = terminal.core.moveFocus down := by
  have tab : terminal.core.panel.tab = terminal.panel.tab := rfl
  -- The same tab is active, with the same list or the same number of fields.
  by_cases onList : terminal.panel.tab = .stackList
  · simp only [moveFocus, tab, onList, if_true]
    rfl
  · by_cases none : terminal.panel.tab.fields.length = 0
    · simp only [moveFocus, tab, onList, none, if_true, if_false]
    · simp only [moveFocus, tab, onList, none, if_false]
      cases down <;> rfl

/-- The same field is edited from the same text. -/
theorem core_beginEdit : terminal.beginEdit.core = terminal.core.beginEdit := by
  -- The inputs are part of the core, so the edit starts from the same text.
  unfold beginEdit
  have focused : terminal.core.focusedField? = terminal.focusedField? := rfl
  rw [focused]
  split <;> rfl

/-- An edit ends in the same way whether or not its text can be written. -/
theorem core_commitEdit (buffer : EditBuffer) (written : Bool) :
    ((terminal.commitEdit buffer).result written).core =
      (terminal.core.commitEdit buffer).result false := by
  -- The end of an edit is that of filling in its field.
  simp only [commitEdit, Saving.map, core, Panel.core_setInput]

/-- A key for an edit does the same. -/
theorem core_editPress (buffer : EditBuffer) (press : KeyPress) (written : Bool) :
    ((terminal.editPress buffer press).result written).core =
      (terminal.core.editPress buffer press).result false := by
  unfold editPress
  -- A key that the buffer does not take changes nothing, one may finish the edit, any other goes
  -- on.
  split
  · rfl
  · exact terminal.core_commitEdit _ written
  · rfl

/-- The same action is launched. -/
theorem core_launch (now : Instant) (trigger : ActionTrigger) :
    (terminal.launch .standard now trigger).core =
      terminal.core.launch .standard .epoch trigger := by
  have dispatched := terminal.panel.core_dispatch now trigger
  simp only [launch, Step.core]
  rw [core, core, dispatched]

/-- A command does the same. -/
theorem core_perform (now : Instant) (command : Command) (written : Bool) :
    ((terminal.perform .standard now command).result written).core =
      (terminal.core.perform .standard .epoch command).result false := by
  cases command with
  -- Only a change of the tab or of the sending is written.
  | quit | scroll rows => rfl
  | cycle turn =>
    simp only [perform, withTab, Saving.map, Step.changing, Step.core, core, Panel.core_cycle]
  | go tab =>
    simp only [perform, withTab, Saving.map, Step.changing, Step.core, core, Panel.core_activate]
  | focusUp | focusDown =>
    simp only [perform, Saving.of, Step.changing, Step.core, core_moveFocus]
  | edit => simp only [perform, Saving.of, Step.changing, Step.core, core_beginEdit]
  | toggleApiKey =>
    simp only [perform, Saving.map, Step.changing, Step.core, core, Panel.core_toggleApiKey]
  -- An action starts without a write.
  | run trigger => exact terminal.core_launch now trigger

/-- A key does the same. -/
theorem core_press (now : Instant) (press : KeyPress) (written : Bool) :
    ((terminal.press .standard now press).result written).core =
      (terminal.core.press .standard .epoch press).result false := by
  -- The mode and the meaning of a key are read from the core alone.
  unfold Terminal.press
  have mode : terminal.core.mode = terminal.mode := rfl
  have meant : Command.ofPress? terminal.core.panel press =
      Command.ofPress? terminal.panel press := rfl
  rw [mode, meant]
  cases terminal.mode with
  | editing buffer =>
    simp only [Saving.map, Step.changing, Step.core, core_editPress]
  | normal =>
    simp only
    cases Command.ofPress? terminal.panel press with
    | none => rfl
    | some command => exact terminal.core_perform now command written

/-- An action ends in the same way. -/
theorem core_deliver (now : Instant) (completion : Completion) :
    (terminal.deliver now completion).core = terminal.core.deliver .epoch completion := by
  -- What an action leaves is added to the panel, and the core has the same.
  simp only [deliver, core, Panel.core_complete]

end Terminal

end StackPanel

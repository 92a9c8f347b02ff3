import Mathlib.Logic.Relation
import StackPanel.Proofs.Panel.Preferences
import StackPanel.Proofs.Session.Cursor
import StackPanel.Proofs.Session.Selection
import StackPanel.Proofs.Terminal.Focus

/-! What fits together in every session that can be reached: the focus and the tab, an open edit and
the field that has the focus, the cursor and the text, the selection and the cards, the tab and the
choice of it. -/

namespace StackPanel

/-- Whether the kept choices name the active tab. -/
def Panel.NamesTab (panel : Panel) : Prop :=
  panel.preferences.get? .activeTab = some panel.tab.id

namespace Panel.NamesTab

variable {panel : Panel}

/-- A tab that is made active is the one that is kept. -/
theorem activate (panel : Panel) (tab : Tab) (written : Bool) :
    ((panel.activate tab).result written).NamesTab := by
  -- Making a tab active and keeping its name is one operation.
  simp [NamesTab, Panel.activate, Saving.map, Preferences.get?_set]

/-- A key that runs no action keeps a named tab named. -/
theorem adjusts (named : panel.NamesTab) {after : Panel} (adjusts : panel.Adjusts after) :
    after.NamesTab := by
  cases adjusts with
  -- Neither the list nor its selection has a part in the choices.
  | same | selects => exact named
  | goes tab written => exact activate panel tab written
  | toggles written =>
    -- The choice of sending the key is kept under another name.
    simpa [NamesTab, toggleApiKey, Preferences.setBool, Saving.map, Preferences.get?_set]
      using named
  | fills field text written =>
    -- Only a key of the service is kept, and not under the name of the tab.
    unfold setInput
    split
    · simpa [NamesTab, Saving.map, Preferences.get?_set] using named
    · exact named

end Panel.NamesTab

/-- Whether the parts of a terminal fit together. -/
structure Terminal.Consistent (terminal : Terminal) : Prop where
  /-- The focus is on the first position or on a field of the active tab. -/
  focus : terminal.focus = 0 ∨ terminal.focus < terminal.panel.tab.fields.length
  /-- The field that is edited is the one that has the focus. -/
  edited : ∀ buffer, terminal.mode = .editing buffer →
    terminal.focusedField? = some buffer.field
  /-- The cursor of an edit stands between two characters of its text or at an end. -/
  cursor : ∀ buffer, terminal.mode = .editing buffer →
    Text.IsBoundary buffer.text buffer.cursor ∧ buffer.cursor ≤ buffer.text.utf8ByteSize
  /-- The selected position of the list is the first one or that of a card. -/
  selected : terminal.panel.stackList.selected = 0 ∨
    terminal.panel.stackList.selected < terminal.panel.stackList.cards.length

namespace Session

/-- In every session that can be reached the focus and an open edit go together. -/
theorem Reachable.keepsFocus {session : Session} (reached : session.Reachable) :
    session.terminal.KeepsFocus := by
  -- A session opens without an edit and with the focus on the first position.
  induction reached with
  | start settings preferences logPath => exact .of_normal rfl (.inl rfl)
  | @step session next _ taken ih =>
    cases taken with
    | press press now written => exact ih.press now press written
    | deliver position now outcome =>
      -- What is delivered at a position without an action is dropped.
      unfold Session.deliver
      split
      · exact ih
      · exact ih.deliver now _

/-- In every session that can be reached the cursor of an edit stands between two characters. -/
theorem Reachable.cursorOnBoundary {session : Session} (reached : session.Reachable) :
    session.terminal.CursorOnBoundary := by
  induction reached with
  | start settings preferences logPath => exact .of_normal rfl
  | @step session next _ taken ih =>
    cases taken with
    | press press now written => exact ih.press .standard now press written
    | deliver position now outcome =>
      -- The end of an action has no part in what keys are for.
      unfold Session.deliver
      split <;> exact ih

/-- A step keeps a named tab named. -/
theorem Step.namesTab {session next : Session} (taken : session.Step next)
    (named : session.panel.NamesTab) : next.panel.NamesTab := by
  cases taken with
  | press press now written =>
    rcases session.terminal.press_cases .standard now press written with
      ⟨trigger, -, -, same⟩ | ⟨-, adjusts⟩
    · -- An action that starts has no part in the tab and the choices.
      obtain ⟨isBusy, console, launched⟩ := session.terminal.panel_launch now trigger
      show (_ : Terminal).panel.NamesTab
      simp only [Session.press, same, launched]
      exact named
    · -- Whatever else a key does to the panel keeps the tab named.
      exact named.adjusts adjusts
  | deliver position now outcome =>
    unfold Session.deliver
    split
    · exact named
    · -- An end is shown in the console, the list and the fields, none of which is a choice.
      simp only [Session.panel, Terminal.deliver, Panel.complete_eq]
      exact named

/-- Steps keep a named tab named. -/
theorem namesTab_of_steps {session later : Session} (named : session.panel.NamesTab)
    (steps : Relation.ReflTransGen Session.Step session later) : later.panel.NamesTab := by
  -- What is kept after the earlier steps is kept by the last one too.
  induction steps with
  | refl => exact named
  | tail _ taken ih => exact taken.namesTab ih

/-- Events are steps, one after another. -/
theorem steps_after (session : Session) (events : List Event) :
    Relation.ReflTransGen Session.Step session (session.after events) := by
  induction events generalizing session with
  | nil => exact .refl
  | cons event rest ih => exact .head (session.step_of_event event) (ih _)

/-- A session whose edit is finished: its text stands in the field, and that of a key of the service
among the kept choices as well. -/
def finishing (session : Session) (buffer : EditBuffer) (written : Bool) : Session :=
  { session with
    terminal := { session.terminal with
      mode := .normal
      panel := { session.panel with
        inputs := session.panel.inputs.set buffer.field buffer.text
        preferences :=
          if buffer.field = .apiKey then
            (session.panel.preferences.set .apiKey buffer.text).result written
          else session.panel.preferences } } }

/-- A key for an open edit finishes it or changes the buffer alone. -/
theorem press_editing {session : Session} {buffer : EditBuffer}
    (editing : session.terminal.mode = .editing buffer)
    (boundary : Text.IsBoundary buffer.text buffer.cursor) (press : KeyPress) (now : Instant)
    (written : Bool) :
    ∃ after, buffer.press? press = some (after, press.finishes buffer.field) ∧
      after.field = buffer.field ∧
      session.press press now written =
        if press.finishes buffer.field then session.finishing buffer written
        else { session with terminal := { session.terminal with mode := .editing after } } := by
  -- On a boundary the text falls into what is left and right of the cursor, so the key succeeds.
  obtain ⟨zipper, holds⟩ := EditBuffer.holds_of_isBoundary boundary
  obtain ⟨after, pressed, field, -⟩ := holds.press press
  refine ⟨after, pressed, field, ?_⟩
  -- Both sides are now the panel after one key, and only the field and the text are left to tell.
  simp only [Session.press, Terminal.press, editing, Terminal.editPress, pressed]
  cases finishes : press.finishes buffer.field with
  | false => simp [Saving.of, Saving.map, Terminal.Step.changing]
  | true =>
    -- The buffer is taken over as it stands.
    obtain rfl : buffer = after := by
      simpa [EditBuffer.press?_of_finishes finishes, finishes] using pressed
    by_cases isKey : buffer.field = .apiKey
    · simp [Terminal.commitEdit, Panel.setInput, Saving.map, Terminal.Step.changing, isKey,
        finishing]
    · -- Any other field goes into the inputs alone.
      simp [Terminal.commitEdit, Panel.setInput, Saving.map, Saving.of, Terminal.Step.changing,
        isKey, finishing]

/-- In every session that can be reached the parts of the terminal fit together. After a command
that makes a tab active the kept choices name the active tab, whatever happens then. While an edit
is open no key fails: one that finishes it changes the edited input alone, and with a key of the
service the kept choices, and any other changes nothing but the buffer. -/
theorem reachable_is_consistent {session : Session} (reached : session.Reachable) :
    session.terminal.Consistent ∧
    (∀ press now written, session.terminal.mode = .normal →
      (∃ tab, Command.ofPress? session.panel press = some (.go tab)) ∨
        (∃ turn, Command.ofPress? session.panel press = some (.cycle turn)) →
      ∀ later, Relation.ReflTransGen Session.Step (session.press press now written) later →
        later.panel.preferences.get? .activeTab = some later.panel.tab.id) ∧
    ∀ buffer, session.terminal.mode = .editing buffer → ∀ press now written,
      ∃ after, buffer.press? press = some (after, press.finishes buffer.field) ∧
        after.field = buffer.field ∧
        session.press press now written =
          if press.finishes buffer.field then session.finishing buffer written
          else { session with terminal := { session.terminal with mode := .editing after } } := by
  have focus := reached.keepsFocus
  have cursor := reached.cursorOnBoundary
  refine ⟨⟨focus.inRange, focus.edited, ?_, reached.selectsCard.inRange⟩, ?_, ?_⟩
  · intro buffer editing
    -- A boundary is never behind the end of the text.
    exact ⟨cursor buffer editing, (cursor buffer editing).le⟩
  · intro press now written normal command later steps
    refine namesTab_of_steps ?_ steps
    -- Either command makes some tab active, and keeps the choice of it.
    rcases command with ⟨tab, meant⟩ | ⟨turn, meant⟩
    · simp only [Session.press, Terminal.press, normal, meant]
      exact .activate session.panel tab written
    · simp only [Session.press, Terminal.press, normal, meant]
      exact .activate session.panel _ written
  · intro buffer editing press now written
    exact press_editing editing (cursor buffer editing) press now written

/-- Keys after the one that goes to the settings: they open an edit of the key of the service and
type a wide letter, and an action ends in between. -/
def typedKey : List Event :=
  [.press { key := .char 'j' } (.ofUnixMilliseconds 2) true,
    .press { key := .char 'e' } (.ofUnixMilliseconds 3) true,
    .answer 0 (.ofUnixMilliseconds 4) [.failure "connection reset"],
    .press { key := .char 'é' } (.ofUnixMilliseconds 5) true]

/-- A health check that is under way when the settings are opened and a key is typed. -/
theorem typedKey_is_consistent :
    let started := (start .initial (.load true .missing) none).after
      [.press { key := .char '5' } (.ofUnixMilliseconds 0) true,
        .press { key := .char 'h' } (.ofUnixMilliseconds 1) true]
    let settings := started.press { key := .char '1' } (.ofUnixMilliseconds 2) false
    let typed := settings.after typedKey
    typed.terminal.focusedField? = some .apiKey ∧
      typed.panel.preferences.get? .activeTab = some typed.panel.tab.id ∧
      (typed.press { key := .enter } (.ofUnixMilliseconds 6) true).panel.inputs.apiKey = "é" := by
  intro started settings typed
  have reached : started.Reachable :=
    (Reachable.start .initial (.load true .missing) none).after _
  have typedReached : typed.Reachable :=
    (reached.step (.press { key := .char '1' } (.ofUnixMilliseconds 2) false)).after typedKey
  -- The letter takes two bytes, so the cursor stands at the second one.
  have editing : typed.terminal.mode = .editing { field := .apiKey, text := "é", cursor := 2 } := by
    decide +kernel
  obtain ⟨-, named, -⟩ := reachable_is_consistent reached
  obtain ⟨consistent, -, edits⟩ := reachable_is_consistent typedReached
  obtain ⟨after, -, -, finished⟩ :=
    edits _ editing { key := .enter } (.ofUnixMilliseconds 6) true
  refine ⟨consistent.edited _ editing, ?_, ?_⟩
  · exact named { key := .char '1' } (.ofUnixMilliseconds 2) false (by decide +kernel)
      (.inl ⟨.settings, by decide +kernel⟩) typed (settings.steps_after typedKey)
  · rw [finished]
    rfl

end Session

end StackPanel

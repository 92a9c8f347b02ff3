import StackPanel.Proofs.Session.Run
import StackPanel.Proofs.Terminal.Zipper

/-! The cursor of an open edit stands between two characters of its text in every session. -/

namespace StackPanel

namespace Terminal

/-- Whether an edit, if one is open, has its cursor between two characters of its text. -/
def CursorOnBoundary (terminal : Terminal) : Prop :=
  ∀ buffer, terminal.mode = .editing buffer → Text.IsBoundary buffer.text buffer.cursor

variable {terminal : Terminal}

/-- While no edit is open there is no cursor to misplace. -/
theorem CursorOnBoundary.of_normal (normal : terminal.mode = .normal) :
    terminal.CursorOnBoundary := by
  intro buffer editing
  -- The mode cannot be both.
  simp [normal] at editing

/-- An edit opens with the cursor at the end of its text. -/
theorem cursorOnBoundary_beginEdit {field : Field} (focused : terminal.focusedField? = some field) :
    terminal.beginEdit.CursorOnBoundary := by
  intro buffer editing
  simp only [beginEdit, focused, Mode.editing.injEq] at editing
  subst editing
  -- The copied text is held with all of it before the cursor.
  exact (EditBuffer.holds_ofField field _).isBoundary

/-- A key for an open edit leaves the cursor on a boundary. -/
theorem CursorOnBoundary.editPress {buffer : EditBuffer}
    (boundary : Text.IsBoundary buffer.text buffer.cursor) (press : KeyPress) (written : Bool) :
    ((terminal.editPress buffer press).result written).CursorOnBoundary := by
  -- A boundary splits the text into a zipper, and the key makes another zipper of it.
  obtain ⟨zipper, holds⟩ := EditBuffer.holds_of_isBoundary boundary
  obtain ⟨after, pressed, -, held⟩ := holds.press press
  unfold Terminal.editPress
  rw [pressed]
  cases finished : press.finishes buffer.field with
  | true =>
    -- A finished edit is closed.
    exact .of_normal rfl
  | false =>
    intro open_ editing
    obtain rfl : after = open_ := by simpa [Saving.of] using editing
    exact held.isBoundary

/-- A key leaves the cursor on a boundary. -/
theorem CursorOnBoundary.press (kept : terminal.CursorOnBoundary) (dispatcher : Dispatcher)
    (now : Instant) (press : KeyPress) (written : Bool) :
    ((terminal.press dispatcher now press).result written).terminal.CursorOnBoundary := by
  unfold Terminal.press
  cases mode : terminal.mode with
  | editing buffer => exact .editPress (kept buffer mode) press written
  | normal =>
    cases meant : Command.ofPress? terminal.panel press with
    -- A key without a meaning leaves the terminal as it was.
    | none => exact .of_normal mode
    | some command =>
      by_cases edits : command = .edit
      · -- The only command that opens an edit does so on the field that has the focus, if any.
        subst edits
        cases focused : terminal.focusedField? with
        | some field => exact cursorOnBoundary_beginEdit focused
        | none =>
          -- On a tab without fields nothing is opened.
          have same : terminal.beginEdit = terminal := by simp [beginEdit, focused]
          refine .of_normal ?_
          show terminal.beginEdit.mode = .normal
          rw [same, mode]
      · -- Every other command leaves the mode as it is.
        exact .of_normal ((mode_perform dispatcher now written edits).trans mode)

end Terminal

namespace Session

/-- An event leaves the cursor on a boundary, be it a key or the end of an action. -/
theorem cursorOnBoundary_step {session : Session} (kept : session.terminal.CursorOnBoundary)
    (event : Event) : (session.step event).terminal.CursorOnBoundary := by
  cases event with
  | press press now written => exact kept.press .standard now press written
  | answer position now replies =>
    -- The end of an action has no part in what keys are for.
    simp only [step, deliver]
    split <;> exact kept

/-- Events leave the cursor on a boundary. -/
theorem cursorOnBoundary_after {session : Session} (kept : session.terminal.CursorOnBoundary)
    (events : List Event) : (session.after events).terminal.CursorOnBoundary := by
  induction events generalizing session with
  | nil => exact kept
  -- The first event leads to a session from which the rest goes on.
  | cons event rest ih => exact ih (cursorOnBoundary_step kept event)

/-- Every key leads from a buffer that holds a text to one that holds what the key makes of that
text, character by character, and it finishes the edit or not without ever failing. Keys for an edit
that starts with the text of its field do so one after another, and in a session in which an edit
was opened the cursor stands between two characters of the text whatever happens. -/
theorem presses_follow_zipper {buffer : EditBuffer} {zipper : Zipper} (holds : buffer.Holds zipper)
    (press : KeyPress) :
    (∃ after, buffer.press? press = some (after, press.finishes buffer.field) ∧
      after.field = buffer.field ∧
      after.Holds (zipper.press buffer.field.isMultiline press)) ∧
    (∀ field text presses, ∃ after,
      (EditBuffer.ofField field text).pressAll? presses = some after ∧ after.field = field ∧
      after.Holds (presses.foldl (Zipper.press field.isMultiline) (.ofText text)) ∧
      Text.IsBoundary after.text after.cursor) ∧
    ∀ (session : Session) (field : Field) (events : List Event),
      session.terminal.focusedField? = some field →
      let opened := { session with terminal := session.terminal.beginEdit }
      ∀ edited, (opened.after events).terminal.mode = .editing edited →
        Text.IsBoundary edited.text edited.cursor := by
  refine ⟨holds.press press, ?_, ?_⟩
  · -- The buffer of a new edit holds its text, and so do the buffers after it.
    intro field text presses
    obtain ⟨after, run, sameField, held⟩ := (EditBuffer.holds_ofField field text).pressAll presses
    exact ⟨after, run, sameField, held, held.isBoundary⟩
  · intro session field events focused opened
    -- The edit that is opened first has its cursor on a boundary, and so has every later one.
    have begun : opened.terminal.CursorOnBoundary := Terminal.cursorOnBoundary_beginEdit focused
    exact cursorOnBoundary_after begun events

/-- A buffer whose cursor stands after a word of one wide character and two spaces. -/
def afterWideWord : EditBuffer :=
  { field := .podSpec, text := "aé 語  😀", cursor := 9 }

/-- Two keys for an edit of an address, the second of which moves back over a wide character. -/
def typedWideLetter : List Event :=
  [.press { key := .char 'é' } (.ofUnixMilliseconds 0) true,
    .press { key := .left } (.ofUnixMilliseconds 1) true]

/-- Removing the word takes its bytes with those of the spaces and no others, and moving back over a
wide letter takes the cursor to its first byte. -/
theorem afterWideWord_follows_zipper :
    afterWideWord.press? { key := .char 'w', control := true } =
        some ({ afterWideWord with text := "aé 😀", cursor := 4 }, false) ∧
      Text.IsBoundary "http://localhost:8081é" 21 := by
  let zipper : Zipper := { left := "aé 語  ".toList, right := ['😀'] }
  have holds : afterWideWord.Holds zipper := ⟨rfl, rfl⟩
  obtain ⟨⟨after, pressed, sameField, held⟩, -, opened⟩ :=
    presses_follow_zipper holds { key := .char 'w', control := true }
  -- The spaces and the word go, and the space before the word stays.
  have removed : zipper.press true { key := .char 'w', control := true } =
      { left := "aé ".toList, right := ['😀'] } := by decide
  refine ⟨?_, ?_⟩
  · -- The buffer is known by its field, its text and its cursor.
    have field : after.field = .podSpec := sameField
    have text : after.text = "aé 😀" := held.text.trans (congrArg Zipper.text removed)
    have cursor : after.cursor = 4 :=
      held.cursor.trans (congrArg (fun zipper => (String.ofList zipper.left).utf8ByteSize) removed)
    have same : after = { afterWideWord with text := "aé 😀", cursor := 4 } := by
      cases after
      simp only at field text cursor
      subst field text cursor
      rfl
    rw [pressed, same]
    rfl
  · exact opened (start .initial .unavailable none) .baseUrl typedWideLetter rfl
      { field := .baseUrl, text := "http://localhost:8081é", cursor := 21 } (by decide +kernel)

end Session

end StackPanel

import StackPanel.Proofs.Screen.EditCursor
import StackPanel.Proofs.Session.Cursor
import StackPanel.Proofs.Terminal.OtherKey

/-! The screen shows of the key how many characters it has and whether it is blank, and nothing
else. -/

namespace StackPanel

/-- Whether two buffers hold as many characters, with as many of them before their cursors, which
stand between two characters. -/
def EditBuffer.SameShape (first second : EditBuffer) : Prop :=
  ∃ one another : Zipper, first.Holds one ∧ second.Holds another ∧
    one.left.length = another.left.length ∧ first.text.length = second.text.length

/-- Whether two terminals edit no field, the same field with the same text, or both the key with
buffers of the same shape. -/
inductive Mode.SameShape : Mode → Mode → Prop where
  | normal : SameShape .normal .normal
  | editing (buffer : EditBuffer) : SameShape (.editing buffer) (.editing buffer)
  | apiKey {first second : EditBuffer} (firstField : first.field = .apiKey)
    (secondField : second.field = .apiKey) (shape : first.SameShape second) :
    SameShape (.editing first) (.editing second)

/-- Whether two terminals differ in the key alone, as typed, saved and edited, and both keys have as
many characters and are both blank or both not. -/
inductive Terminal.SameKeyShape (first : Terminal) : Terminal → Prop where
  | of {apiKey : String} {preferences : Preferences} {mode : Mode}
    (length : first.panel.inputs.apiKey.length = apiKey.length)
    (blank : Text.blank first.panel.inputs.apiKey = Text.blank apiKey)
    (kept : first.panel.preferences.AgreesButKey preferences)
    (modes : first.mode.SameShape mode) :
    SameKeyShape first
      { first with
        panel := first.panel.withKey apiKey preferences first.panel.console.stamp, mode }

namespace Screen

/-- A key is shown by its number of characters alone. -/
theorem shown_apiKey {first second : String} (length : first.length = second.length) :
    Form.shown .apiKey first = Form.shown .apiKey second := by
  simp only [Form.shown, Field.shown, String.length_toList, length]

/-- Texts of the same length are both empty or both not. -/
theorem isEmpty_congr {first second : String} (length : first.length = second.length) :
    first.isEmpty = second.isEmpty := by
  -- Being empty is having length zero.
  rw [Bool.eq_iff_iff, String.isEmpty_iff, String.isEmpty_iff, ← String.length_eq_zero_iff,
    ← String.length_eq_zero_iff, length]

/-- The cursor of a key that is edited stands behind as many dots as characters. -/
theorem lineCursor?_eq {first second : EditBuffer} (firstField : first.field = .apiKey)
    (secondField : second.field = .apiKey) (shape : first.SameShape second) (area : Area)
    (line : Nat) : Form.lineCursor? area first line = Form.lineCursor? area second line := by
  -- The zippers give what stands before the cursors, of which a mask keeps the number of
  -- characters.
  obtain ⟨one, another, holds, alsoHolds, length, -⟩ := shape
  simp only [Form.lineCursor?, beforeCursor_of_holds holds, beforeCursor_of_holds alsoHolds,
    firstField, secondField, Field.shown, length]

/-- The status of a key depends on whether it is blank. -/
theorem keyStatus_withKey (panel : Panel) {apiKey : String} (preferences : Preferences)
    (stamp : Option Instant) (blank : Text.blank panel.inputs.apiKey = Text.blank apiKey) :
    keyStatus (panel.withKey apiKey preferences stamp) = keyStatus panel := by
  -- The bar asks for the connection, which leaves out a key that is blank or not to be sent.
  have sent : ∀ panel : Panel, panel.connection.apiKey.isSome =
      (panel.inputs.sendsApiKey && !Text.blank panel.inputs.apiKey) := by
    intro panel
    simp only [Panel.connection, Connection.ofSettings]
    -- A key that is not blank is sent as the choice has it, and a blank one never.
    split <;> simp_all
  have same : (panel.withKey apiKey preferences stamp).connection.apiKey.isSome =
      panel.connection.apiKey.isSome := by
    rw [sent panel, blank]
    exact sent _
  rw [keyStatus, keyStatus, same]
  rfl

section

variable {first second : Terminal}

/-- The status bar tells whether the key is sent, which depends on its being blank. -/
theorem statusBar_eq (same : first.SameKeyShape second) (columns : Nat) :
    statusBar first columns = statusBar second columns := by
  cases same with
  | @of apiKey preferences mode length blank kept modes =>
    simp only [statusBar, keyStatus_withKey first.panel preferences _ blank]
    -- The mark for unsaved choices hangs on the store alone, which both share.
    simp only [Panel.withKey, kept.isAvailable]
    rfl

/-- The bar of hints names the field that is edited, and shows nothing of its text. -/
theorem hintBar_eq (same : first.SameKeyShape second) (columns : Nat) :
    hintBar first columns = hintBar second columns := by
  cases same with
  | of length blank kept modes =>
    simp only [hintBar, Hint.all]
    generalize first.mode = mode at modes
    cases modes with
    | normal | editing buffer => rfl
    | apiKey firstField secondField shape => simp only [firstField, secondField]; rfl

/-- The buffer of a field other than that of the key is the same. -/
theorem bufferOf?_eq (same : first.SameKeyShape second) {field : Field} (other : field ≠ .apiKey) :
    Form.bufferOf? first field = Form.bufferOf? second field := by
  cases same with
  | of length blank kept modes =>
    simp only [Form.bufferOf?]
    generalize first.mode = mode at modes
    cases modes with
    | normal | editing buffer => rfl
    | apiKey firstField secondField shape =>
      -- Both edit the key, so neither has a buffer for the field.
      simp only [firstField, secondField, other.symm, if_false]

/-- A field shows its text, of the key only the number of its characters. -/
theorem fieldLine_eq (same : first.SameKeyShape second) (field : Field) (empty : String) :
    Form.fieldLine first field empty = Form.fieldLine second field empty := by
  by_cases isKey : field = .apiKey
  · subst isKey
    cases same with
    | @of apiKey preferences mode length blank kept modes =>
      simp only [Form.fieldLine, Form.bufferOf?]
      generalize first.mode = mode at modes
      -- A key that is edited is shown from its buffer, any other from its field.
      cases modes with
      | apiKey firstField secondField shape =>
        obtain ⟨-, -, -, -, -, lengths⟩ := shape
        simp only [firstField, secondField, if_true, shown_apiKey lengths]
        rfl
      -- The field is shown by its length, and one without text as the placeholder.
      | normal | editing buffer =>
        simp only [Inputs.get, Panel.withKey, isEmpty_congr length, shown_apiKey length]
        rfl
  · -- Of any other field everything is the same.
    -- Such a field has one value, one buffer and one focus in both terminals.
    have buffer := bufferOf?_eq same isKey
    have value : first.panel.inputs.get field = second.panel.inputs.get field := by
      cases same
      cases field <;> first | contradiction | rfl
    have focus : first.focusedField? = second.focusedField? := by
      cases same
      rfl
    simp only [Form.fieldLine, buffer, value, focus]

/-- A form shows nothing of the key but its length. -/
theorem form_eq (same : first.SameKeyShape second) (tab : Tab) :
    Form.ofTab? first tab = Form.ofTab? second tab := by
  have line := fieldLine_eq same
  cases tab with
  | settings =>
    simp only [Form.ofTab?, Form.settings, line]
    cases same
    rfl
  | create =>
    -- The pod specification is the one field that is not drawn on a line of its own.
    have podSpec : Form.bufferOf? first .podSpec = Form.bufferOf? second .podSpec :=
      bufferOf?_eq same (by simp)
    simp only [Form.ofTab?, Form.create, line, podSpec]
    cases same
    rfl
  | inspect =>
    simp only [Form.ofTab?, Form.inspect, line]
    cases same
    rfl
  -- The two other tabs have no form.
  | stackList | service => rfl

/-- The cursor stands at the same place. -/
theorem cursor?_eq (same : first.SameKeyShape second) (form : Form) (area : Area) :
    form.cursor? first area = form.cursor? second area := by
  cases same with
  | of length blank kept modes =>
    simp only [Form.cursor?, Panel.withKey]
    generalize first.mode = mode at modes
    cases modes with
    | normal | editing buffer => rfl
    | apiKey firstField secondField shape =>
      -- Only the pod specification scrolls with its cursor, and a key is not that.
      simp only [firstField, secondField, lineCursor?_eq firstField secondField shape,
        reduceCtorEq, and_false, if_false]

/-- Of two terminals that differ in the key alone, of the same length and blank or not, the screen is
the same. -/
theorem screen_masks_key (same : first.SameKeyShape second) :
    (∀ columns rows, Frame.draw first columns rows = Frame.draw second columns rows) ∧
      ∀ layout, Frame.drawIn layout first = Frame.drawIn layout second := by
  -- What is drawn besides the forms, the two bars and the cursor has no part in the key.
  have drawn : ∀ layout, Frame.drawIn layout first = Frame.drawIn layout second := by
    intro layout
    simp only [Frame.drawIn, form_eq same, cursor?_eq same, statusBar_eq same, hintBar_eq same]
    cases same
    rfl
  exact ⟨fun columns rows => drawn _, drawn⟩

end

/-- A terminal at which a key is edited. -/
def editingKey (apiKey : String) (cursor : Nat) : Terminal :=
  let panel := Panel.start { Settings.initial with apiKeyOverride := some apiKey } .unavailable
  { Terminal.start panel none with
    mode := .editing { field := .apiKey, text := apiKey, cursor }
    focus := 1 }

/-- A key with wide characters looks like one of plain letters, the cursor included, although it
stands behind more bytes. -/
theorem editingKey_masked :
    let first := editingKey "日本x" 6
    let second := editingKey "key" 2
    first.SameKeyShape second ∧ Frame.draw first 80 24 = Frame.draw second 80 24 ∧
      (Frame.draw second 80 24).cursor = some (21, 8) := by
  intro first second
  -- Both have two characters before the cursor and one behind, of nine bytes and of three.
  have shape : EditBuffer.SameShape { field := .apiKey, text := "日本x", cursor := 6 }
      { field := .apiKey, text := "key", cursor := 2 } :=
    ⟨⟨['日', '本'], ['x']⟩, ⟨['k', 'e'], ['y']⟩, ⟨rfl, rfl⟩, ⟨rfl, rfl⟩, rfl, rfl⟩
  have same : first.SameKeyShape second :=
    .of (by decide) (by decide) ⟨rfl, fun _ _ => rfl⟩ (.apiKey rfl rfl shape)
  exact ⟨same, (screen_masks_key same).1 80 24, by decide +kernel⟩

end Screen

end StackPanel

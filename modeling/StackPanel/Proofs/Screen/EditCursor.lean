import StackPanel.Proofs.Terminal.Zipper
import StackPanel.Proofs.Text.Columns
import StackPanel.Proofs.Text.Pieces
import StackPanel.Screen.Frame

/-! The cursor of the screen stands at the place of an edit if that place is one of the positions of
a screen, which are counted in sixteen bits. -/

namespace StackPanel.Screen

/-- A column and a row as they are counted in sixteen bits, where what is too large for them starts
again at zero. -/
def wrapped (place : Nat × Nat) : Nat × Nat :=
  (place.1 % UInt16.size, place.2 % UInt16.size)

/-- Whether a column and a row can be those of a position on a screen. -/
def IsPosition (place : Nat × Nat) : Prop :=
  place.1 < UInt16.size ∧ place.2 < UInt16.size

instance (place : Nat × Nat) : Decidable (IsPosition place) :=
  inferInstanceAs (Decidable (_ ∧ _))

/-- A position is counted as it is. -/
theorem IsPosition.wrapped_eq {place : Nat × Nat} (position : IsPosition place) :
    wrapped place = place := by
  -- Neither of the two numbers reaches the bound at which counting starts again.
  rw [wrapped, Nat.mod_eq_of_lt position.1, Nat.mod_eq_of_lt position.2]

namespace Area

/-- The place at some columns and rows from the corner of an area, counted without bound. -/
def place (area : Area) (offset : Nat × Nat) : Nat × Nat :=
  (area.left.toNat + offset.1, area.top.toNat + offset.2)

/-- The column and the row behind the last ones of an area, counted without bound. -/
def edge (area : Area) : Nat × Nat :=
  area.place (area.columns.toNat, area.rows.toNat)

/-- Whether an area ends on a screen. -/
def OnScreen (area : Area) : Prop :=
  IsPosition area.edge

instance (area : Area) : Decidable area.OnScreen :=
  inferInstanceAs (Decidable (IsPosition area.edge))

/-- Whether a place lies in the rectangle of an area. -/
def Contains (area : Area) (place : Nat × Nat) : Prop :=
  (area.left.toNat ≤ place.1 ∧ place.1 < area.edge.1) ∧
    area.top.toNat ≤ place.2 ∧ place.2 < area.edge.2

instance (area : Area) (place : Nat × Nat) : Decidable (area.Contains place) :=
  inferInstanceAs (Decidable (_ ∧ _))

/-- A place, if it lies in the rectangle of an area. -/
def inside? (area : Area) (place : Nat × Nat) : Option (Nat × Nat) :=
  if area.Contains place then some place else none

/-- A place as it is counted in sixteen bits, if that lies before the edge of an area, which is
counted in the same way. -/
def counted? (area : Area) (place : Nat × Nat) : Option (Nat × Nat) :=
  if (wrapped place).1 < (wrapped area.edge).1 ∧ (wrapped place).2 < (wrapped area.edge).2 then
    some (wrapped place)
  else none

variable {area : Area}

/-- A position at an offset from the corner of an area is counted in sixteen bits. -/
theorem position?_ofNat (area : Area) (offset : Nat × Nat) :
    area.position? (UInt16.ofNat offset.1) (UInt16.ofNat offset.2) =
      area.counted? (area.place offset) := by
  -- A sum in sixteen bits is the remainder of the sum, whichever of its parts were cut before.
  unfold position? counted?
  simp only [UInt16.lt_iff_toNat_lt, UInt16.toNat_add, UInt16.toNat_ofNat', Nat.add_mod_mod,
    Bool.and_eq_true, decide_eq_true_eq]
  rfl

/-- An area on a screen contains positions only. -/
theorem OnScreen.isPosition (onScreen : area.OnScreen) {place : Nat × Nat}
    (inside : area.Contains place) : IsPosition place := by
  -- Whatever it contains lies before its edge, which is a position.
  have right : area.edge.1 < UInt16.size := onScreen.1
  have bottom : area.edge.2 < UInt16.size := onScreen.2
  -- A place inside is before the edge in both directions.
  obtain ⟨⟨-, before⟩, -, above⟩ := inside
  constructor <;> omega

section Offset

variable (onScreen : area.OnScreen) (offset : Nat × Nat)

include onScreen

/-- On a screen a position at an offset from the corner of an area is found if it lies inside. -/
theorem counted?_eq_inside? (position : IsPosition (area.place offset)) :
    area.counted? (area.place offset) = area.inside? (area.place offset) := by
  -- No offset leads to the left of the corner or above it.
  have left : area.left.toNat ≤ (area.place offset).1 := Nat.le_add_right _ _
  have top : area.top.toNat ≤ (area.place offset).2 := Nat.le_add_right _ _
  have same : area.Contains (area.place offset) ↔
      (area.place offset).1 < area.edge.1 ∧ (area.place offset).2 < area.edge.2 := by
    rw [Contains, and_iff_right left, and_iff_right top]
  simp only [counted?, inside?, position.wrapped_eq, onScreen.wrapped_eq, same]

/-- On a screen a place at an offset from the corner of an area is found if it lies inside and not
otherwise, provided that it is a position or is not found at all. -/
theorem counted?_eq_inside?_iff :
    area.counted? (area.place offset) = area.inside? (area.place offset) ↔
      IsPosition (area.place offset) ∨ area.counted? (area.place offset) = none := by
  by_cases position : IsPosition (area.place offset)
  · -- A position is counted as it is, so the two tests are the same one.
    exact iff_of_true (counted?_eq_inside? onScreen offset position) (.inl position)
  · -- What is no position lies outside, so that nothing is to be found.
    have outside : ¬area.Contains (area.place offset) := by
      intro inside
      exact position (onScreen.isPosition inside)
    rw [inside?, if_neg outside]
    exact (or_iff_right position).symm

end Offset

end Area

section PanelArea

variable {columns rows : Nat} (width : columns < UInt16.size) (height : rows < UInt16.size)

include width height

/-- The panel is as wide as the screen and begins below the bar of tabs, if there is one. -/
theorem edge_panelArea :
    (Layout.ofSize columns rows).panelArea.edge =
      (columns, (if 8 ≤ rows then 1 else 0) + panelRows rows) := by
  have few : panelRows rows < UInt16.size := by
    unfold panelRows UInt16.size at *
    omega
  -- The bar of tabs is the first row of the screen, where there is one.
  have top : (Layout.ofSize columns rows).panelArea.top.toNat = if 8 ≤ rows then 1 else 0 := by
    simp only [Layout.panelArea, Layout.ofSize, decide_eq_true_eq]
    split <;> rfl
  -- Neither number is too large for sixteen bits, so both are taken as they are.
  have wide : (UInt16.ofNat columns).toNat = columns := by
    rw [UInt16.toNat_ofNat', Nat.mod_eq_of_lt width]
  have high : (UInt16.ofNat (panelRows rows)).toNat = panelRows rows := by
    rw [UInt16.toNat_ofNat', Nat.mod_eq_of_lt few]
  calc
    (Layout.ofSize columns rows).panelArea.edge
      = (0 + (UInt16.ofNat columns).toNat,
          (Layout.ofSize columns rows).panelArea.top.toNat +
            (UInt16.ofNat (panelRows rows)).toNat) := rfl
    _ = (columns, (if 8 ≤ rows then 1 else 0) + panelRows rows) := by
      rw [wide, high, top, Nat.zero_add]

/-- The panel of a screen ends on it. -/
theorem onScreen_panelArea : (Layout.ofSize columns rows).panelArea.OnScreen := by
  rw [Area.OnScreen, edge_panelArea width height]
  refine ⟨width, ?_⟩
  -- The panel and the bar above it are a part of the rows of the screen.
  show (if 8 ≤ rows then 1 else 0) + panelRows rows < UInt16.size
  unfold panelRows UInt16.size at *
  split <;> omega

end PanelArea

/-- The text before the cursor of a buffer is the first part of what it holds. -/
theorem beforeCursor_of_holds {buffer : EditBuffer} {zipper : Zipper}
    (holds : buffer.Holds zipper) : Form.beforeCursor buffer = zipper.left := by
  -- The cursor counts bytes, and the first part has as many.
  -- What is left of the cursor is cut off at that many bytes.
  have cursor : buffer.cursor = Text.byteLength zipper.left := by
    rw [holds.cursor, Text.utf8ByteSize_ofList]
  rw [Form.beforeCursor, Text.before?, holds.text, cursor, Zipper.text, Text.min_byteLength,
    String.toList_ofList, Text.cutAt?_append]
  rfl

namespace Form

/-- The line of its form on which the label of a field stands. -/
def labelLine : Field → Nat
  | .baseUrl | .targetPort | .stackId => 3
  | .apiKey | .podSpec => 6

/-- The columns and the rows from the corner of the panel to the place of an edit with some text
before it. A value stands behind its label, the key as a dot for each character, and the lines of
the pod description stand below its label. -/
def editOffset (field : Field) (before : List Char) : Nat × Nat :=
  match field with
  -- The border and the indentation take seven columns, the lines up to the label eight rows.
  | .podSpec => (7 + Text.columns (Text.lastLine before), 8 + before.count '\n')
  -- The border, the mark and the label take nineteen columns.
  | .apiKey => (19 + Text.columns (List.replicate before.length '•'), 1 + labelLine .apiKey)
  | .baseUrl | .targetPort | .stackId => (19 + Text.columns before, 1 + labelLine field)

/-- A value is edited behind its text as it is shown. -/
theorem editOffset_of_ne {field : Field} (other : field ≠ .podSpec) (before : List Char) :
    editOffset field before = (19 + Text.columns (field.shown before), 1 + labelLine field) := by
  cases field with
  | podSpec => contradiction
  | baseUrl | apiKey | targetPort | stackId => rfl

/-- Whether a form shows a field: its label stands on its line, which is also the place of the edit
unless the field is the pod description. -/
structure Shows (form : Form) (field : Field) : Prop where
  label : ∃ line, form.lines[labelLine field]? = some line ∧ labelSpan field.label ∈ line
  place : field ≠ .podSpec → form.places.lookup field = some (labelLine field)

/-- A field on a single line is shown by the line with its value. -/
theorem Shows.of_fieldLine {form : Form} {terminal : Terminal} {field : Field} {empty : String}
    (line : form.lines[labelLine field]? = some (fieldLine terminal field empty))
    (place : form.places.lookup field = some (labelLine field)) : form.Shows field where
  label := ⟨_, line, by simp [fieldLine]⟩
  place _ := place

/-- The form of a tab shows every field of the tab. -/
theorem exists_shows (terminal : Terminal) {tab : Tab} {field : Field}
    (offered : field ∈ tab.fields) : ∃ form, ofTab? terminal tab = some form ∧ form.Shows field := by
  cases tab with
  | settings =>
    simp only [Tab.fields, List.mem_cons, List.not_mem_nil, or_false] at offered
    rcases offered with rfl | rfl
    · -- Lines and places are given by the position of the field in its form.
      exact ⟨_, rfl, .of_fieldLine rfl rfl⟩
    · exact ⟨_, rfl, .of_fieldLine rfl rfl⟩
  | create =>
    simp only [Tab.fields, List.mem_cons, List.not_mem_nil, or_false] at offered
    rcases offered with rfl | rfl
    · exact ⟨_, rfl, .of_fieldLine rfl rfl⟩
    · -- The label of the pod description has a line of its own, and its text follows.
      exact ⟨_, rfl, ⟨_, rfl, by simp⟩, fun other => absurd rfl other⟩
  | inspect =>
    -- The tab has one field.
    obtain rfl := List.mem_singleton.mp offered
    exact ⟨_, rfl, .of_fieldLine rfl rfl⟩
  | stackList | service => contradiction

/-- The pod description belongs to the tab for a new stack alone. -/
theorem eq_create_of_podSpec {tab : Tab} (offered : .podSpec ∈ tab.fields) : tab = .create := by
  -- No other tab offers this field.
  cases tab <;> simp [Tab.fields] at offered ⊢

/-- Where the panel of the active tab puts the cursor when it is drawn in an area. -/
def panelCursor? (terminal : Terminal) (area : Area) : Option (Nat × Nat) :=
  (ofTab? terminal terminal.panel.tab).bind fun form => form.cursor? terminal area

section Edit

variable {terminal : Terminal} {buffer : EditBuffer} {zipper : Zipper}
  (holds : buffer.Holds zipper) (area : Area)

include holds

/-- The cursor of a value stands as many columns behind its label as the shown text takes. -/
theorem lineCursor?_eq_counted? (other : buffer.field ≠ .podSpec) :
    lineCursor? area buffer (labelLine buffer.field) =
      area.counted? (area.place (editOffset buffer.field zipper.left)) := by
  -- All sums are made in sixteen bits, so the constants may be added before the text is measured.
  rw [← Area.position?_ofNat, lineCursor?, beforeCursor_of_holds holds, editOffset_of_ne other,
    UInt16.ofNat_add, UInt16.ofNat_add]
  rfl

/-- The cursor of the pod description stands behind its last line before the cursor, and below all
that have ended. -/
theorem podSpecCursor?_eq_counted? (isPodSpec : buffer.field = .podSpec) :
    podSpecCursor? area buffer =
      area.counted? (area.place (editOffset buffer.field zipper.left)) := by
  -- The lines that have ended are the line feeds, and the last one is what stands behind them.
  rw [isPodSpec, ← Area.position?_ofNat, podSpecCursor?, beforeCursor_of_holds holds,
    Text.reverse_takeWhile_reverse, editOffset, UInt16.ofNat_add, UInt16.ofNat_add]
  rfl

/-- The panel puts the cursor to the place of the edit, as it is counted in sixteen bits. -/
theorem panelCursor?_eq_counted? (editing : terminal.mode = .editing buffer)
    (offered : buffer.field ∈ terminal.panel.tab.fields) :
    panelCursor? terminal area =
      area.counted? (area.place (editOffset buffer.field zipper.left)) := by
  -- The field has the focus of its tab, so the form of the tab shows it.
  obtain ⟨form, found, -, place⟩ := exists_shows terminal offered
  rw [panelCursor?, found, Option.bind_some, cursor?, editing]
  simp only
  by_cases isPodSpec : buffer.field = .podSpec
  · -- The tab is the one for a new stack, which has a cursor of its own for this field.
    rw [isPodSpec] at offered
    rw [if_pos ⟨eq_create_of_podSpec offered, isPodSpec⟩]
    exact podSpecCursor?_eq_counted? holds area isPodSpec
  · -- Any other field has its place on the line with its label.
    rw [if_neg fun both => isPodSpec both.2, place isPodSpec]
    exact lineCursor?_eq_counted? holds area isPodSpec

end Edit

/-- While a field of the active tab is edited, its label is shown, and in any area the cursor is put
where the place of the edit is as counted in sixteen bits. On a screen it marks the place of the edit
if that lies in the panel, and is hidden otherwise, exactly if the place is a position or the cursor
is hidden anyway. However a screen is shared out, it has the cursor of its panel, whose area ends on
the screen. -/
theorem cursor_marks_edit_iff_isPosition {terminal : Terminal} {buffer : EditBuffer}
    {zipper : Zipper} (editing : terminal.mode = .editing buffer)
    (offered : buffer.field ∈ terminal.panel.tab.fields) (holds : buffer.Holds zipper) :
    let offset := editOffset buffer.field zipper.left
    (∃ form, ofTab? terminal terminal.panel.tab = some form ∧ form.Shows buffer.field) ∧
    (∀ area : Area, panelCursor? terminal area = area.counted? (area.place offset)) ∧
    (∀ area : Area, area.OnScreen →
      (panelCursor? terminal area = area.inside? (area.place offset) ↔
        IsPosition (area.place offset) ∨ panelCursor? terminal area = none)) ∧
    (∀ layout, (Frame.drawIn layout terminal).cursor =
      panelCursor? terminal layout.panelArea) ∧
    ∀ columns rows, columns < UInt16.size → rows < UInt16.size →
      let area := (Layout.ofSize columns rows).panelArea
      area.OnScreen ∧
        area.edge = (columns, (if 8 ≤ rows then 1 else 0) + panelRows rows) ∧
        (Frame.draw terminal columns rows).cursor = panelCursor? terminal area := by
  intro offset
  -- Both kinds of fields come down to one offset, about which only areas are left to speak.
  have counted : ∀ area : Area, panelCursor? terminal area = area.counted? (area.place offset) :=
    fun area => panelCursor?_eq_counted? holds area editing offered
  refine ⟨exists_shows terminal offered, counted, ?_, fun layout => rfl, ?_⟩
  · -- What is found in an area of a screen is the place of the edit or nothing.
    intro area onScreen
    rw [counted]
    exact Area.counted?_eq_inside?_iff onScreen offset
  · intro columns rows width height area
    exact ⟨onScreen_panelArea width height, edge_panelArea width height, rfl⟩

/-- A terminal on some tab at which a buffer is edited. -/
def editingOn (tab : Tab) (buffer : EditBuffer) : Terminal :=
  let panel := Panel.start { Settings.initial with defaultTab := tab } .unavailable
  { Terminal.start panel none with mode := .editing buffer }

/-- Behind two wide letters on the second line of a pod description the cursor stands where they
end. -/
theorem wideLetters_marked :
    let buffer : EditBuffer := { field := .podSpec, text := "a:\n  日本x", cursor := 11 }
    let area := (Layout.ofSize 80 24).panelArea
    let place := area.place (editOffset .podSpec "a:\n  日本".toList)
    (Frame.draw (editingOn .create buffer) 80 24).cursor = area.inside? place ∧
      area.inside? place = some (13, 10) := by
  intro buffer area place
  have editing : (editingOn .create buffer).mode = .editing buffer := rfl
  have offered : buffer.field ∈ (editingOn .create buffer).panel.tab.fields := by decide
  have holds : buffer.Holds ⟨"a:\n  日本".toList, ['x']⟩ := ⟨rfl, rfl⟩
  have located : place = (13, 10) := by decide +kernel
  -- The place is far from the bound, as all places in the panel are.
  have position : IsPosition place := by
    rw [located]
    decide
  obtain ⟨-, -, marks, -, drawn⟩ := cursor_marks_edit_iff_isPosition editing offered holds
  obtain ⟨onScreen, -, same⟩ := drawn 80 24 (by decide) (by decide)
  refine ⟨same.trans ((marks _ onScreen).mpr (.inl position)), ?_⟩
  rw [located]
  decide

/-- An edit opens with the cursor behind the whole text. -/
theorem cursor_ofField {tab : Tab} {field : Field} (offered : field ∈ tab.fields)
    (text : List Char) (columns rows : Nat) :
    let area := (Layout.ofSize columns rows).panelArea
    let buffer := EditBuffer.ofField field (String.ofList text)
    (Frame.draw (editingOn tab buffer) columns rows).cursor =
      area.counted? (area.place (editOffset field text)) := by
  intro area buffer
  have editing : (editingOn tab buffer).mode = .editing buffer := rfl
  -- A text that is opened stands before the cursor as a whole.
  have counted := panelCursor?_eq_counted? (EditBuffer.holds_ofField field (String.ofList text))
    area editing offered
  rw [Zipper.ofText, String.toList_ofList] at counted
  exact counted

/-- Letters are edited as many columns behind a label as there are. -/
theorem editOffset_letters (count : Nat) :
    editOffset .stackId (List.replicate count 'a') = (19 + count, 4) := by
  have each : ∀ c ∈ List.replicate count 'a',
      Text.isSteady c = true ∧ Text.charColumns c = 1 := by
    -- Every one of them is the same letter.
    intro c member
    rw [List.eq_of_mem_replicate member]
    decide +kernel
  have width : Text.columns (List.replicate count 'a') = count := by
    rw [Text.columns_of_isSteady fun c member => (each c member).1,
      Text.characterColumns_of_single fun c member => (each c member).2, List.length_replicate]
  show (19 + Text.columns (List.replicate count 'a'), 1 + 3) = (19 + count, 4)
  rw [width]

/-- Line feeds are edited as many rows below the label as there are. -/
theorem editOffset_feeds (count : Nat) :
    editOffset .podSpec (List.replicate (count + 1) '\n') = (7, 9 + count) := by
  -- Nothing stands behind the last line feed.
  have last : Text.lastLine (List.replicate (count + 1) '\n') = [] := by
    rw [List.replicate_succ']
    exact Text.lastLine_append List.not_mem_nil
  rw [editOffset, last, List.count_replicate_self]
  show (7, 8 + (count + 1)) = (7, 9 + count)
  rw [Nat.add_comm count, ← Nat.add_assoc]

/-- Behind as many letters as sixteen bits can count, or below as many lines, an edit has its place
outside the panel, and yet the cursor is shown inside, as if the text were empty. -/
theorem longTexts_move_cursor :
    let area := (Layout.ofSize 80 24).panelArea
    let letters := List.replicate 65536 'a'
    let feeds := List.replicate 65536 '\n'
    let cursor := fun tab field text =>
      (Frame.draw (editingOn tab (.ofField field (String.ofList text))) 80 24).cursor
    (area.inside? (area.place (editOffset .stackId letters)) = none ∧
      cursor .inspect .stackId letters = some (19, 5)) ∧
    area.inside? (area.place (editOffset .podSpec feeds)) = none ∧
      cursor .create .podSpec feeds = some (7, 9) := by
  intro area letters feeds cursor
  -- Counted in sixteen bits, 2 ^ 16 columns or rows are none.
  have behind : editOffset .stackId letters = (65555, 4) := editOffset_letters 65536
  have below : editOffset .podSpec feeds = (7, 65544) := editOffset_feeds 65535
  have marked : cursor .inspect .stackId letters = _ := cursor_ofField (by decide) letters 80 24
  have alsoMarked : cursor .create .podSpec feeds = _ := cursor_ofField (by decide) feeds 80 24
  rw [marked, alsoMarked, behind, below]
  decide

end Form

end StackPanel.Screen

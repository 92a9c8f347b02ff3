import StackPanel.Proofs.Text.Truncate
import StackPanel.Screen.CardList

/-! The values on cards are cut to their columns, so that they start in the same columns on all
cards. -/

namespace StackPanel.Screen.CardList

open Text (IsKept characterColumns columns isSteady surplus truncate)

/-- The columns of the pieces of a line, each measured as a text. -/
def measured : Line → Nat
  | [] => 0
  | span :: rest => columns span.text.toList + measured rest

/-- The columns of the symbols that a line is drawn with. -/
def drawn (line : Line) : Nat :=
  Screen.width (Line.glyphs line)

/-- A piece in the style of values. -/
def isValue (span : Span) : Bool :=
  span.style = .colored (.rgb 200 200 215)

/-- The columns in front of each value on a line. -/
def valueStarts (measure : Line → Nat) (line : Line) : List Nat :=
  (line.zipIdx.filter fun place => isValue place.1).map fun place => measure (line.take place.2)

/-- A way to measure lines piece by piece, which counts the characters of steady text. -/
structure CountsSteady (measure : Line → Nat) : Prop where
  cons : ∀ span next rest, measure (span :: next :: rest) = measure [span] + measure (next :: rest)
  steady : ∀ span : Span, (∀ c ∈ span.text.toList, isSteady c = true) →
    measure [span] = characterColumns span.text.toList

/-- Measured columns are such a measure. -/
theorem countsSteady_measured : CountsSteady measured where
  -- Both laws hold by the way in which the pieces are added up.
  cons span next rest := by simp [measured]
  steady span steady := by simp [measured, Text.columns_of_isSteady steady]

/-- The first symbol adds its columns to those of the others. -/
theorem width_cons (glyph : Glyph) (rest : List Glyph) :
    Screen.width (glyph :: rest) = glyph.columns + Screen.width rest := rfl

/-- The columns of symbols one after another are the sum of both. -/
theorem width_append (first second : List Glyph) :
    Screen.width (first ++ second) = Screen.width first + Screen.width second := by
  -- The first symbol stands in front of both sums.
  induction first with
  | nil => simp [Screen.width]
  | cons glyph rest ih => rw [List.cons_append, width_cons, width_cons, ih, Nat.add_assoc]

/-- Steady text is drawn in the columns of its characters. -/
theorem width_glyphs_of_isSteady {span : Span}
    (steady : ∀ c ∈ span.text.toList, isSteady c = true) :
    Screen.width span.glyphs = characterColumns span.text.toList := by
  -- The clusters are pieces of the text, and so steady themselves.
  have pieces : ∀ clusters : List (List Char), (∀ c ∈ clusters.flatten, isSteady c = true) →
      Screen.width ((clusters.filter (· ≠ ['\n'])).map fun symbol =>
        { symbol, columns := columns symbol, style := span.style }) =
      characterColumns clusters.flatten := by
    intro clusters
    induction clusters with
    | nil => intro _; rfl
    -- The first cluster is steady, and so are those behind it.
    | cons symbol rest ih =>
      intro steady
      rw [List.flatten_cons] at steady ⊢
      have here : ∀ c ∈ symbol, isSteady c = true := fun c member =>
        steady c (List.mem_append_left _ member)
      have later := ih fun c member => steady c (List.mem_append_right _ member)
      -- A line feed alone would be dropped, but it is not steady.
      have noFeed : symbol ≠ ['\n'] := by
        rintro rfl
        exact absurd (here '\n' (List.mem_singleton.mpr rfl)) (by decide +kernel)
      rw [List.filter_cons_of_pos (by simpa using noFeed), List.map_cons, width_cons, later,
        Text.columns_of_isSteady here, Text.characterColumns_append]
  -- A text is its clusters one after another, so the fact about clusters is one about texts.
  have whole := pieces (Text.clusters span.text.toList)
  rw [Text.flatten_clusters] at whole
  exact whole steady

/-- Drawn columns are such a measure. -/
theorem countsSteady_drawn : CountsSteady drawn where
  cons span next rest := by simp [drawn, Line.glyphs, width_append]
  steady span steady := by simpa [drawn, Line.glyphs] using width_glyphs_of_isSteady steady

/-- The piece that shows a value in the columns of one half of a card. -/
def valueSpan (half : Nat) (value : String) : Span :=
  { text := String.ofList (truncate value.toList (half - (labelColumns + 1)))
    style := .colored (.rgb 200 200 215) }

/-- The columns by which a value is too wide for its half of a card although it was cut. -/
def overrun (half : Nat) (value : String) : Nat :=
  columns (truncate value.toList (half - (labelColumns + 1))) - (half - (labelColumns + 1))

/-- The values on a card that have another one behind them. -/
def leading (summary : StackSummary) : List String :=
  [Display.text summary.space, Display.text summary.serviceName, Display.text summary.nodePublicIp,
    Display.processor summary.cpuMilli, Display.timestamp summary.ttlExpiresAt]

/-- Whether a text can be a label: it has room in the columns of labels, one for each character. -/
structure IsLabel (label : String) : Prop where
  each : ∀ c ∈ label.toList, isSteady c = true ∧ Text.charColumns c = 1
  short : label.length ≤ labelColumns

/-- A space takes one column wherever it stands. -/
theorem steady_space : isSteady ' ' = true ∧ Text.charColumns ' ' = 1 := by
  decide +kernel

/-- The labels of a card are labels. -/
theorem isLabel_of_mem_fields {summary : StackSummary} {field : String × String}
    (member : field ∈ (StackCard.ofSummary summary).fields) : IsLabel field.1 := by
  -- The names of the fields do not depend on the stack, so that all of them can be checked at once.
  have each : ["namespace", "pod", "service", "node", "public ip", "ports", "cpu", "memory", "ttl",
      "created", "updated"].all (fun label =>
        label.toList.all (fun c => isSteady c && Text.charColumns c == 1) &&
          label.length ≤ labelColumns) = true := by
    decide +kernel
  have here := List.all_eq_true.mp each field.1 (List.mem_map_of_mem (f := Prod.fst) member)
  simp only [Bool.and_eq_true, List.all_eq_true, beq_iff_eq, decide_eq_true_eq] at here
  exact ⟨here.1, here.2⟩

section Row

variable {measure : Line → Nat} (counts : CountsSteady measure)

include counts

/-- Steady characters of one column each take as many columns as there are of them. -/
theorem CountsSteady.single {text : String} (style : Style)
    (each : ∀ c ∈ text.toList, isSteady c = true ∧ Text.charColumns c = 1) :
    measure [{ text, style }] = text.toList.length := by
  rw [counts.steady { text, style } fun c member => (each c member).1,
    Text.characterColumns_of_single fun c member => (each c member).2]

/-- Spaces take a column each. -/
theorem CountsSteady.spaces (count : Nat) (style : Style) :
    measure [{ text := String.ofList (List.replicate count ' '), style }] = count := by
  -- A space is steady and takes one column, and there is nothing else in the text.
  have each : ∀ c ∈ (String.ofList (List.replicate count ' ')).toList,
      isSteady c = true ∧ Text.charColumns c = 1 := by
    intro c member
    rw [String.toList_ofList] at member
    rw [List.eq_of_mem_replicate member]
    exact steady_space
  rw [counts.single style each, String.toList_ofList, List.length_replicate]

/-- A label takes its columns and one more. -/
theorem CountsSteady.label {label : String} (named : IsLabel label) (style : Style) :
    measure [{ text := padded labelColumns label ++ " ", style }] = labelColumns + 1 := by
  -- Padding and the space behind it make one run of spaces.
  have text : (padded labelColumns label ++ " ").toList =
      label.toList ++ List.replicate (labelColumns - label.length + 1) ' ' := by
    simp [padded, List.replicate_succ']
  have each : ∀ c ∈ (padded labelColumns label ++ " ").toList,
      isSteady c = true ∧ Text.charColumns c = 1 := by
    intro c member
    rw [text] at member
    -- A character stands in the label itself or in the run of spaces behind it.
    rcases List.mem_append.mp member with inside | behind
    · exact named.each c inside
    · rw [List.eq_of_mem_replicate behind]
      exact steady_space
  have short := named.short
  rw [counts.single style each, text, List.length_append, List.length_replicate, String.length_toList]
  omega

/-- A line starts with four spaces. -/
theorem CountsSteady.indent : measure [{ text := "    " }] = 4 :=
  counts.spaces 4 {}

variable {half : Nat} {left right : String × String}

/-- The value on a line of its own starts behind its label. -/
theorem CountsSteady.valueStarts_single (named : IsLabel left.1) :
    valueStarts measure ({ text := "    " } :: entry half left) = [15] := by
  -- The value is the third piece of the line, and the first piece of the style of values.
  have starts : valueStarts measure ({ text := "    " } :: entry half left) =
      [measure [{ text := "    " },
        { text := padded labelColumns left.1 ++ " ", style := .colored Palette.label }]] := by
    simp [valueStarts, entry, isValue, Style.colored, Palette.label]
  rw [starts, counts.cons, counts.indent, counts.label named]
  rfl

/-- Of two values on a line the second starts where the padding behind the first puts it, and later
by as much as the first one is too wide. -/
theorem CountsSteady.valueStarts_pair (wide : labelColumns + 1 ≤ half) (first : IsLabel left.1)
    (second : IsLabel right.1)
    (same : measure [valueSpan half left.2] = measured [valueSpan half left.2]) :
    valueStarts measure ({ text := "    " } :: entry half left ++ entry half right) =
      [15, half + 17 + overrun half left.2] := by
  -- The five pieces before the second value are named, so that each can be measured once.
  let leftLabel : Span :=
    { text := padded labelColumns left.1 ++ " ", style := .colored Palette.label }
  let rightLabel : Span :=
    { text := padded labelColumns right.1 ++ " ", style := .colored Palette.label }
  let shown := truncate left.2.toList (half - (labelColumns + 1))
  let padding : Span :=
    { text := String.ofList (List.replicate (half - (labelColumns + 1) - columns shown + 2) ' ') }
  -- The values are the third and the sixth piece, behind two and behind five others.
  have starts : valueStarts measure ({ text := "    " } :: entry half left ++ entry half right) =
      [measure [{ text := "    " }, leftLabel],
        measure [{ text := "    " }, leftLabel, valueSpan half left.2, padding, rightLabel]] := by
    simp [valueStarts, entry, isValue, Style.colored, Palette.label, leftLabel, rightLabel, padding,
      valueSpan, shown]
  -- All pieces but the value itself are steady, and their columns do not depend on the measure.
  have labels : measure [leftLabel] = labelColumns + 1 ∧ measure [rightLabel] = labelColumns + 1 :=
    ⟨counts.label first _, counts.label second _⟩
  have pad : measure [padding] = half - (labelColumns + 1) - columns shown + 2 := counts.spaces _ _
  have value : measure [valueSpan half left.2] = columns shown := by
    rw [same]
    simp [measured, valueSpan, shown]
  -- What the value takes beyond its room is what the padding cannot make up for.
  have excess : overrun half left.2 = columns shown - (half - (labelColumns + 1)) := rfl
  rw [starts, excess]
  simp only [counts.cons, counts.indent, labels, pad, value, List.cons.injEq, and_true]
  simp only [labelColumns, true_and] at wide ⊢
  omega

/-- The values of a card start in two columns, the second of which moves by as much as the value
before it on the line is too wide. -/
theorem CountsSteady.valueStarts_card (wide : labelColumns + 1 ≤ half) {summary : StackSummary}
    (same : ∀ field ∈ (StackCard.ofSummary summary).fields,
      measure [valueSpan half field.2] = measured [valueSpan half field.2]) :
    (entries half (StackCard.ofSummary summary).fields).map (valueStarts measure) =
      (leading summary).map (fun value => [15, half + 17 + overrun half value]) ++ [[15]] := by
  -- The lines differ in their fields alone, and each field has a label of those known.
  have pair : ∀ left right, left ∈ (StackCard.ofSummary summary).fields →
      right ∈ (StackCard.ofSummary summary).fields →
      valueStarts measure ({ text := "    " } :: entry half left ++ entry half right) =
        [15, half + 17 + overrun half left.2] := fun left right first second =>
    counts.valueStarts_pair wide (isLabel_of_mem_fields first) (isLabel_of_mem_fields second)
      (same left first)
  have single : ∀ left, left ∈ (StackCard.ofSummary summary).fields →
      valueStarts measure ({ text := "    " } :: entry half left) = [15] := fun left first =>
    counts.valueStarts_single (isLabel_of_mem_fields first)
  simp only [StackCard.ofSummary, entries, leading, List.map_cons, List.map_nil] at pair single ⊢
  -- The last field stands alone on its line, and the ten before it in pairs.
  rw [single _ (by simp)]
  repeat rw [pair _ _ (by simp) (by simp)]
  rfl

end Row

section Values

variable {half : Nat} {value : String}

/-- The columns of the second values are the same on all lines if nothing moves any of them. -/
theorem aligned_iff {summary : StackSummary} :
    (leading summary).map (fun value => [15, half + 17 + overrun half value]) ++ [[15]] =
      List.replicate 5 [15, half + 17] ++ [[15]] ↔
    ∀ value ∈ leading summary, overrun half value = 0 := by
  -- There are as many lines with two values as there are values in front.
  have count : (leading summary).length = 5 := rfl
  rw [List.append_left_inj, ← count, List.map_eq_replicate_iff]
  simp

/-- A steady value is drawn in as many columns as it measures. -/
theorem drawn_valueSpan (wide : labelColumns + 2 ≤ half)
    (steady : ∀ c ∈ value.toList, isSteady c = true) :
    drawn [valueSpan half value] = measured [valueSpan half value] := by
  -- A column for the ellipsis is left beside the label, so a cut value stays steady.
  have room : 1 ≤ half - (labelColumns + 1) := by omega
  have whole : ∀ c ∈ (valueSpan half value).text.toList, isSteady c = true := by
    simpa [valueSpan] using Text.isSteady_truncate room steady
  rw [countsSteady_drawn.steady _ whole, countsSteady_measured.steady _ whole]

/-- One half of a card has room for a label and three columns of a value. -/
theorem room_of_halfColumns (inner : Nat) : labelColumns + 4 ≤ halfColumns inner :=
  Nat.le_max_right _ _

end Values

/-- From a text that is too wide the longest start is kept whose characters leave one column free.
The text is cut as it should be if it fits or that start leaves a column free as a whole, as the
starts of texts without surplus do, and not otherwise. Values on cards start in the same two
columns on every card, measured or drawn, whose values fit when they are cut, and on no other. -/
theorem truncated_values_keep_columns (text : List Char) {max : Nat} (positive : 1 ≤ max)
    (inner : Nat) (summary : StackSummary) :
    let half := halfColumns inner
    let fields := (StackCard.ofSummary summary).fields
    let aligned := List.replicate 5 [15, half + 17] ++ [[15]]
    (∃ kept, IsKept max text kept ∧
      truncate text max = (if columns text ≤ max then text else kept ++ ['…']) ∧
      (columns (truncate text max) ≤ max ∧ (truncate text max = text ↔ columns text ≤ max) ↔
        columns text ≤ max ∨ columns kept < max) ∧
      (surplus text = 0 → columns kept < max)) ∧
    ((entries half fields).map (valueStarts measured) = aligned ↔
      ∀ value ∈ leading summary, overrun half value = 0) ∧
    ((∀ field ∈ fields, drawn [valueSpan half field.2] = measured [valueSpan half field.2]) →
      ((entries half fields).map (valueStarts drawn) = aligned ↔
        ∀ value ∈ leading summary, overrun half value = 0)) := by
  intro half fields aligned
  -- The half of a card is never too narrow for a label.
  have wide : labelColumns + 1 ≤ half := Nat.le_trans (by decide) (room_of_halfColumns inner)
  have keeps := Text.isKept_keepColumns positive text
  -- The text that is kept is the one that the loop keeps, whatever is done about its columns.
  refine ⟨⟨Text.keepColumns max text, keeps, Text.truncate_eq text max, ?_, keeps.columns_lt⟩,
    ?_, fun same => ?_⟩
  · -- A text that fits is not cut, so that of the two conditions one implies the other.
    rw [← Text.columns_truncate_le_iff]
    exact and_iff_left_of_imp Text.truncate_eq_self_iff
  · -- Measured columns agree with themselves, so nothing is to be assumed of the values.
    rw [countsSteady_measured.valueStarts_card wide fun _ _ => rfl]
    exact aligned_iff
  · -- Drawn columns need the agreement that is assumed of every field.
    rw [countsSteady_drawn.valueStarts_card wide same]
    exact aligned_iff

/-- A long name in wide characters is cut to three columns, and the values behind it start where
they start on any card. -/
theorem wideName_keeps_columns :
    let summary : StackSummary := { space := some "日本語テキスト", podId := some "pod" }
    columns (truncate "日本語テキスト".toList 3) ≤ 3 ∧
      (entries (halfColumns 0) (StackCard.ofSummary summary).fields).map (valueStarts drawn) =
        List.replicate 5 [15, 31] ++ [[15]] := by
  intro summary
  have steady : (StackCard.ofSummary summary).fields.all (fun field =>
      field.2.toList.all isSteady) = true := by
    decide +kernel
  -- No wide character of the name has columns that are counted twice or not at all.
  have name : surplus "日本語テキスト".toList = 0 :=
    Text.surplus_of_isSteady (List.all_eq_true.mp (by decide +kernel))
  obtain ⟨⟨kept, -, -, cuts, even⟩, -, starts⟩ :=
    truncated_values_keep_columns "日本語テキスト".toList (show 1 ≤ 3 by decide) 0 summary
  -- The first value is cut to its room, and the others are short.
  refine ⟨(cuts.mpr (.inr (even name))).1, (starts fun field member => ?_).mpr (by decide +kernel)⟩
  exact drawn_valueSpan (by decide)
    (List.all_eq_true.mp (List.all_eq_true.mp steady field member))

/-- Control characters take no columns when a text is cut but do so when it is measured, so that a
cut text can be too wide, a text that is too wide can stay as it is, and values can start in other
columns than those of another card. -/
theorem controls_exceed_columns :
    columns (truncate ['\x01', '\x01', '\x01', '\x01'] 3) = 5 ∧
      (1 < columns ['\x01', '…'] ∧ truncate ['\x01', '…'] 1 = ['\x01', '…']) ∧
      let starts := fun summary : StackSummary =>
        (entries (halfColumns 0) (StackCard.ofSummary summary).fields).map (valueStarts measured)
      starts { space := some "\x01\x01\x01\x01" } ≠ starts {} := by
  decide +kernel

end StackPanel.Screen.CardList

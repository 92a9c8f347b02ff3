import StackPanel.Screen.Box
import StackPanel.Screen.CardList
import StackPanel.Screen.Palette
import StackPanel.Terminal.Basic
import StackPanel.Text.Pieces

/-! The forms of the tabs, and where the cursor stands in them. -/

namespace StackPanel.Screen

/-- A rectangle of the screen, in the sixteen bits that positions on a screen have. -/
structure Area where
  /-- The first column. -/
  left : UInt16
  /-- The first row. -/
  top : UInt16
  /-- The number of columns. -/
  columns : UInt16
  /-- The number of rows. -/
  rows : UInt16

/-- The position at some columns and rows from the corner of an area, if it lies inside. -/
def Area.position? (area : Area) (column row : UInt16) : Option (Nat × Nat) :=
  -- Both sums wrap around in sixteen bits before they are compared with the edge.
  let x := area.left + column
  let y := area.top + row
  if x < area.left + area.columns && y < area.top + area.rows then some (x.toNat, y.toNat)
  else none

/-- A form as it is drawn. -/
structure Form where
  /-- The title. -/
  title : String
  /-- The lines. -/
  lines : List Line
  /-- The fields on a single line, each with the line it stands on. -/
  places : List (Field × Nat)

namespace Form

/-- The columns of a label. -/
def labelColumns : Nat := 14

/-- The columns before a value, marker and label included. -/
def valueColumn : Nat := 4 + labelColumns

/-- A heading. -/
def heading (text : String) : Line :=
  [{ text := "  " }, { text, style := .strong .cyan }]

/-- A note below the values. -/
def note (text : String) : Line :=
  [{ text := String.ofList (List.replicate valueColumn ' ') },
    { text, style := .colored Palette.dim }]

/-- The mark of the field that has the focus. -/
def marker (focused : Bool) : Span :=
  if focused then { text := "  ▸ ", style := .strong .cyan } else { text := "    " }

/-- A label in front of a value. -/
def labelSpan (text : String) : Span :=
  { text := CardList.padded labelColumns text, style := .colored Palette.label }

/-- The buffer of a field that is being edited. -/
def bufferOf? (terminal : Terminal) (field : Field) : Option EditBuffer :=
  match terminal.mode with
  | .editing buffer => if buffer.field = field then some buffer else none
  | .normal => none

/-- A field's text as it is shown. -/
def shown (field : Field) (text : String) : String :=
  String.ofList (field.shown text.toList)

/-- A field with its value, its edited text, or a remark if it is empty. -/
def fieldLine (terminal : Terminal) (field : Field) (empty : String) : Line :=
  let value := terminal.panel.inputs.get field
  -- A field that is being edited shows the text so far, whatever its value is by now.
  let span : Span := match bufferOf? terminal field with
    | some buffer =>
      { text := shown field buffer.text
        style := { foreground := some .white, background := some (.rgb 20 20 35) } }
    | none =>
      if value.isEmpty then { text := empty, style := .colored Palette.dim }
      else { text := shown field value, style := .colored .white }
  [marker (terminal.focusedField? = some field), labelSpan field.label, span]

/-- A line with a label that cannot be edited. -/
def plainLine (text : String) (value : Span) : Line :=
  [{ text := "    " ++ CardList.padded labelColumns text, style := .colored Palette.label }, value]

/-- The form for the connection. -/
def settings (terminal : Terminal) : Form :=
  { title := " settings "
    lines := [
      [],
      heading "Connection",
      [],
      fieldLine terminal .baseUrl "(blank uses the configured origin)",
      note ("requests go to " ++ terminal.panel.connection.baseUrl),
      [],
      fieldLine terminal .apiKey "(none)",
      plainLine "send key"
        (if terminal.panel.inputs.sendsApiKey then
          { text := "[x] X-API-KEY header", style := .colored Palette.good }
        else { text := "[ ] X-API-KEY header", style := .colored .darkGray })]
    places := [(.baseUrl, 3), (.apiKey, 6)] }

/-- What ports can be typed. -/
def portsNote : PortEncoding → String
  | .list => "PORT[/tcp|udp], comma-separated, up to " ++ toString maxPorts
  | .integer => "one TCP port (integer encoding)"

/-- The form for a new stack, with the whole pod description below it. -/
def create (terminal : Terminal) : Form :=
  let buffer := bufferOf? terminal .podSpec
  let podSpec := match buffer with
    | some buffer => buffer.text
    | none => terminal.panel.inputs.podSpec
  let color : Color := if buffer.isSome then .white else .rgb 180 200 140
  { title := " create "
    lines := [
      [],
      heading "New stack",
      [],
      fieldLine terminal .targetPort "(required)",
      note (portsNote terminal.panel.encoding),
      [],
      [marker (terminal.focusedField? = some .podSpec), labelSpan Field.podSpec.label,
        { text := if buffer.isSome then "editing" else "YAML"
          style := .colored Palette.dim }]] ++
      (Text.lines podSpec).map fun text =>
        [{ text := "      " }, { text, style := .colored color }]
    places := [(.targetPort, 3)] }

/-- The form for a single stack. -/
def inspect (terminal : Terminal) : Form :=
  let last := terminal.panel.inputs.lastStackId
  { title := " inspect "
    lines := [
      [],
      heading "Single stack",
      [],
      fieldLine terminal .stackId "(required)",
      plainLine "last created"
        (if last.isEmpty then { text := "-", style := .colored Palette.dim }
        else { text := last, style := .colored Palette.created }),
      [],
      note "g  GET /stacks/\x7bstack_id\x7d",
      note "t  GET /stacks/\x7bstack_id\x7d/status",
      note "D  DELETE /stacks/\x7bstack_id\x7d"]
    places := [(.stackId, 3)] }

/-- The form for the service, which has no fields. -/
def service : Form :=
  { title := " service "
    lines := [
      [],
      heading "Service",
      [],
      note "h  GET /healthz",
      note "s  GET /stats",
      note "l  GET /stacks (also refreshes the Stacks tab)"]
    places := [] }

/-- The form of a tab; the list of stacks is none. -/
def ofTab? (terminal : Terminal) : Tab → Option Form
  | .settings => some (settings terminal)
  | .create => some (create terminal)
  | .inspect => some (inspect terminal)
  | .service => some service
  | .stackList => none

/-- A form in a box. -/
def draw (form : Form) (columns rows : Nat) : List Row :=
  let box : Box := {
    columns
    rows
    border := Palette.border
    title := { text := form.title, style := .colored Palette.label } }
  box.draw ((form.lines.take box.innerRows).map fun line => Line.fitting line box.innerColumns)

/-- The text of a buffer before its cursor. -/
def beforeCursor (buffer : EditBuffer) : List Char :=
  (Text.before? buffer.text buffer.cursor).getD []

/-- The place of the cursor in a field on a single line. -/
def lineCursor? (area : Area) (buffer : EditBuffer) (line : Nat) : Option (Nat × Nat) :=
  let columns := Text.columns (buffer.field.shown (beforeCursor buffer))
  -- One column and one row for the border.
  area.position? (1 + UInt16.ofNat valueColumn + UInt16.ofNat columns) (1 + UInt16.ofNat line)

/-- The place of the cursor in the pod description. -/
def podSpecCursor? (area : Area) (buffer : EditBuffer) : Option (Nat × Nat) :=
  let before := beforeCursor buffer
  let line := (before.reverse.takeWhile (· ≠ '\n')).reverse
  -- The description starts six columns and seven rows inside the border.
  area.position? (1 + 6 + UInt16.ofNat (Text.columns line))
    (1 + 7 + UInt16.ofNat (before.count '\n'))

/-- The place of the cursor while a field of the tab is edited. -/
def cursor? (terminal : Terminal) (form : Form) (area : Area) : Option (Nat × Nat) :=
  match terminal.mode with
  | .normal => none
  | .editing buffer =>
    if terminal.panel.tab = .create ∧ buffer.field = .podSpec then podSpecCursor? area buffer
    else match form.places.lookup buffer.field with
      | some line => lineCursor? area buffer line
      | none => none

end Form

end StackPanel.Screen

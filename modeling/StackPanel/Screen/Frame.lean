import StackPanel.Screen.Form
import StackPanel.Screen.Wrap

/-! The whole screen: tab bar, panel, console, status and key hints. -/

namespace StackPanel.Screen

/-- The bar of tabs, the active one marked. -/
def tabBar (terminal : Terminal) (columns : Nat) : Row :=
  let spans := Tab.all.mapIdx fun i tab =>
    let style : Style :=
      if tab = terminal.panel.tab then { foreground := some .cyan, bold := true, underlined := true }
      else .colored (.rgb 60 55 90)
    [{ text := "[" ++ toString (i + 1) ++ "] " ++ tab.title, style }, ({ text := "  " } : Span)]
  Row.bar columns (.behind (.rgb 6 6 12)) ({ text := " " } :: spans.flatten)

/-- The colours of the console's border and title. -/
def consoleColors : RecordState → Color × Color
  | .idle => (Palette.border, .darkGray)
  | .running => (.rgb 40 60 80, .cyan)
  | .ok => (.rgb 30 80 50, Palette.good)
  | .error => (.rgb 110 40 40, Palette.bad)

/-- The lines of a record: time and title, the kind of an error, an empty line and the body. -/
def consoleLines (console : ConsoleRecord) : List Line :=
  let heading : List Line := match console.stamp with
    | none => []
    | some stamp =>
      [[{ text := "[" ++ stamp.text ++ "] ", style := .colored .darkGray },
        { text := console.title, style := .strong (consoleColors console.state).2 }]] ++
      (console.kindLine?.toList.map fun text => [{ text, style := .colored (.rgb 200 120 120) }]) ++
      [[]]
  let color : Color := if console.state = .idle then .darkGray else .white
  heading ++ (Text.lines console.body).map fun text => [{ text, style := .colored color }]

/-- The console in a box, its lines wrapped and scrolled. -/
def console (terminal : Terminal) (columns rows : Nat) : List Row :=
  let record := terminal.panel.console
  let box : Box := {
    columns
    rows
    border := (consoleColors record.state).1
    title := { text := " response ", style := .colored Palette.label } }
  -- Scrolling counts rows of the screen, so the lines are broken before any are left out.
  let lines := (consoleLines record).flatMap fun line => wrap box.innerColumns (Line.glyphs line)
  box.draw (lines.drop terminal.scroll)

/-- The turning sign that shows that an action is under way. -/
def spinner : List String :=
  ["⠋", "⠙", "⠹", "⠸", "⠼", "⠴", "⠦", "⠧", "⠇", "⠏"]

/-- The sign in front of the status bar. -/
def sign (terminal : Terminal) : Span :=
  if terminal.panel.isBusy then
    { text := spinner.getD (terminal.spinner.toNat % spinner.length) "", style := .strong .cyan }
  else { text := "▲", style := .strong .white }

/-- What the status bar says about the key. -/
def keyStatus (panel : Panel) : Span :=
  if panel.connection.apiKey.isSome then { text := "key on", style := .colored Palette.good }
  else if panel.inputs.sendsApiKey then
    { text := "key empty", style := .colored Palette.warning }
  else { text := "key off", style := .colored .darkGray }

/-- The status bar. -/
def statusBar (terminal : Terminal) (columns : Nat) : Row :=
  let panel := terminal.panel
  let spans : Line := [
    { text := " " },
    sign terminal,
    { text := " cpdash", style := .strong .white },
    { text := "  " },
    { text := panel.connection.baseUrl, style := .colored (.rgb 100 180 220) },
    { text := "  ·  ", style := .colored .darkGray },
    keyStatus panel]
  let last : Line :=
    if panel.inputs.lastStackId.isEmpty then []
    else [{ text := "  ·  last ", style := .colored .darkGray },
      { text := panel.inputs.lastStackId, style := .colored Palette.created }]
  let unsaved : Line :=
    if panel.preferences.isAvailable then []
    else [{ text := "  ·  prefs not saved", style := .colored Palette.warning }]
  let log : Line := match terminal.logPath with
    | some path => [{ text := "  log " ++ path, style := .colored (.rgb 55 50 90) }]
    | none => []
  let ground : Color := if panel.isBusy then .rgb 15 15 25 else .rgb 10 10 18
  Row.bar columns (.behind ground) (spans ++ last ++ unsaved ++ log)

/-- A key and what it does. -/
structure Hint where
  /-- The key. -/
  key : String
  /-- What it does. -/
  label : String
  /-- Whether it starts an action, which has to wait while another one is under way. -/
  isAction : Bool := false

/-- The hints of a tab. -/
def Hint.ofTab : Tab → List Hint
  | .settings => [⟨"↑↓", "field", false⟩, ⟨"Enter", "edit", false⟩, ⟨"a", "toggle key", false⟩]
  | .stackList => [⟨"r", "refresh", true⟩, ⟨"↑↓", "select", false⟩, ⟨"d", "delete", true⟩]
  | .create => [⟨"↑↓", "field", false⟩, ⟨"Enter", "edit", false⟩, ⟨"n", "create", true⟩]
  | .inspect =>
    [⟨"Enter", "edit", false⟩, ⟨"g", "get", true⟩, ⟨"t", "status", true⟩, ⟨"D", "delete", true⟩]
  | .service => [⟨"h", "health", true⟩, ⟨"s", "stats", true⟩, ⟨"l", "list", true⟩]

/-- The hints at the moment. -/
def Hint.all (terminal : Terminal) : List Hint :=
  match terminal.mode with
  | .editing buffer =>
    [⟨"Enter", if buffer.field.isMultiline then "newline" else "done", false⟩,
      ⟨"Esc", "done", false⟩, ⟨"Ctrl+U", "clear", false⟩]
  | .normal =>
    -- Clearing the console is an action like the others and greyed out with them.
    Hint.ofTab terminal.panel.tab ++
      [⟨"x", "clear", true⟩, ⟨"←→", "tabs", false⟩, ⟨"q", "quit", false⟩]

/-- A hint as it is drawn, greyed out while it cannot be followed. -/
def Hint.line (busy : Bool) (hint : Hint) : Line :=
  let off : Color := .rgb 50 50 60
  let disabled := hint.isAction && busy
  [{ text := hint.key, style := .strong (if disabled then off else .cyan) },
    { text := " " ++ hint.label ++ "   "
      style := .colored (if disabled then off else Palette.label) }]

/-- The bar of key hints, which starts with the field that is being edited. -/
def hintBar (terminal : Terminal) (columns : Nat) : Row :=
  let edited : Line := match terminal.mode with
    | .editing buffer =>
      [{ text := "editing " ++ buffer.field.label ++ "  ", style := .strong .yellow }]
    | .normal => []
  Row.bar columns (.behind (.rgb 7 7 14))
    ({ text := " " } :: edited ++
      (Hint.all terminal).flatMap (Hint.line terminal.panel.isBusy))

/-- The whole screen. -/
structure Frame where
  /-- The rows from top to bottom. -/
  rows : List Row
  /-- The column and the row of the cursor, unless it is hidden. -/
  cursor : Option (Nat × Nat)

/-- How a screen is shared out. A bar that is shown takes one row. -/
structure Layout where
  /-- The columns of the screen. -/
  columns : Nat
  /-- Whether there is a row for the bar of tabs. -/
  showsTabs : Bool
  /-- The rows of the panel. -/
  panelRows : Nat
  /-- The rows of the console. -/
  consoleRows : Nat
  /-- Whether there is a row for the status bar. -/
  showsStatus : Bool
  /-- Whether there is a row for the key hints. -/
  showsHints : Bool

/-- The rows of the panel: half of the screen, a half row rounded up, as far as three bars and five
rows of the console leave so many. -/
def panelRows (rows : Nat) : Nat :=
  min ((rows + 1) / 2) (rows - 8)

namespace Layout

/-- How a screen of some columns and rows is shared out. The console takes what the panel and the
bars leave, which are five rows at least if the screen has five. A screen of fewer than eight rows
has no panel, and its bars take the rows below those five: the first one the status bar, the second
one the key hints. -/
def ofSize (columns rows : Nat) : Layout :=
  let showsTabs := decide (8 ≤ rows)
  let showsStatus := decide (6 ≤ rows)
  let showsHints := decide (7 ≤ rows)
  let bars := showsTabs.toNat + showsStatus.toNat + showsHints.toNat
  let middle := Screen.panelRows rows
  { columns, showsTabs, showsStatus, showsHints
    panelRows := middle
    consoleRows := rows - middle - bars }

/-- The area of the panel, below the bar of tabs. -/
def panelArea (layout : Layout) : Area where
  left := 0
  top := if layout.showsTabs then 1 else 0
  columns := UInt16.ofNat layout.columns
  rows := UInt16.ofNat layout.panelRows

end Layout

/-- The rows of a bar: itself if it is shown. -/
def barRows (isShown : Bool) (bar : Row) : List Row :=
  if isShown then [bar] else []

/-- The screen of a terminal that is shared out in some way. -/
def Frame.drawIn (layout : Layout) (terminal : Terminal) : Frame :=
  let form? := Form.ofTab? terminal terminal.panel.tab
  let panel := match form? with
    | some form => form.draw layout.columns layout.panelRows
    | none => CardList.draw terminal.panel.stackList layout.columns layout.panelRows
  { rows :=
      barRows layout.showsTabs (tabBar terminal layout.columns) ++ panel ++
        console terminal layout.columns layout.consoleRows ++
        barRows layout.showsStatus (statusBar terminal layout.columns) ++
        barRows layout.showsHints (hintBar terminal layout.columns)
    cursor := form?.bind fun form => form.cursor? terminal layout.panelArea }

/-- The screen of a terminal of some columns and rows. -/
def Frame.draw (terminal : Terminal) (columns rows : Nat) : Frame :=
  .drawIn (.ofSize columns rows) terminal

end StackPanel.Screen

import StackPanel.Action.Dispatcher
import StackPanel.Terminal.Command
import StackPanel.Terminal.EditBuffer

/-! The panel at a terminal: keys change it, start actions and edit its fields. -/

namespace StackPanel

/-- Whether keys are commands or edit a field. -/
inductive Mode where
  | normal
  | editing (buffer : EditBuffer)
  deriving DecidableEq

/-- The panel as it stands at a terminal. -/
structure Terminal where
  /-- The panel. -/
  panel : Panel
  /-- What keys are for. -/
  mode : Mode
  /-- The position of the focus among the fields of the active tab. -/
  focus : Nat
  /-- The turns of the sign that shows that an action is under way. -/
  spinner : UInt64
  /-- The rows of the console that are scrolled away. -/
  scroll : Nat
  /-- The file that events are logged to. -/
  logPath : Option String
  deriving DecidableEq

namespace Terminal

/-- A terminal that has just been opened. -/
def start (panel : Panel) (logPath : Option String) : Terminal :=
  { panel, mode := .normal, focus := 0, spinner := 0, scroll := 0, logPath }

/-- The field that has the focus. -/
def focusedField? (terminal : Terminal) : Option Field :=
  terminal.panel.tab.fields[terminal.focus]?

/-- Shows how an action ended, from the top of the console. -/
def deliver (terminal : Terminal) (now : Instant) (completion : Completion) : Terminal :=
  { terminal with panel := terminal.panel.complete now completion, scroll := 0 }

/-- Puts a panel with another tab in place, with the focus on its first field. -/
def withTab (terminal : Terminal) (panel : Saving Panel) : Saving Terminal :=
  panel.map fun panel => { terminal with panel, focus := 0 }

/-- Moves the focus, or on the list of stacks the selection. -/
def moveFocus (terminal : Terminal) (down : Bool) : Terminal :=
  if terminal.panel.tab = .stackList then
    let list := terminal.panel.stackList
    let stackList := if down then list.selectNext else list.selectPrevious
    { terminal with panel := { terminal.panel with stackList } }
  else
    let count := terminal.panel.tab.fields.length
    if count = 0 then terminal
    else if down then { terminal with focus := min (terminal.focus + 1) (count - 1) }
    else { terminal with focus := terminal.focus - 1 }

/-- Starts to edit the field that has the focus. -/
def beginEdit (terminal : Terminal) : Terminal :=
  match terminal.focusedField? with
  | some field =>
    -- The buffer is a copy, so the edit does not see what becomes of the field meanwhile.
    { terminal with mode := .editing (.ofField field (terminal.panel.inputs.get field)) }
  | none => terminal

/-- Takes an edited text over into its field. -/
def commitEdit (terminal : Terminal) (buffer : EditBuffer) : Saving Terminal :=
  -- The edited text replaces whatever the field holds by now.
  (terminal.panel.setInput buffer.field buffer.text).map fun panel =>
    { terminal with panel, mode := .normal }

/-- The last row that the console can be scrolled to. -/
def maxScroll : Nat := 65535

/-- Scrolls the console by some rows, as far as that goes. -/
def scrollBy (terminal : Terminal) (rows : Int) : Terminal :=
  { terminal with scroll := min (terminal.scroll + rows).toNat maxScroll }

/-- What a key leads to. -/
structure Step where
  /-- The terminal afterwards. -/
  terminal : Terminal
  /-- Whether the terminal stays open. -/
  staysOpen : Bool
  /-- The action that was started and whose requests are still to be made. -/
  started : Option PendingAction

/-- A step that only changes the terminal. -/
def Step.changing (terminal : Terminal) : Step :=
  { terminal, staysOpen := true, started := none }

/-- Starts an action, with the console scrolled to its top whether or not it can start. -/
def launch (dispatcher : Dispatcher) (terminal : Terminal) (now : Instant)
    (trigger : ActionTrigger) : Step :=
  let (panel, started) := dispatcher.dispatch terminal.panel now trigger
  { terminal := { terminal with panel, scroll := 0 }, staysOpen := true, started }

/-- Carries out a command. -/
def perform (dispatcher : Dispatcher) (terminal : Terminal) (now : Instant) :
    Command → Saving Step
  | .quit => .of { terminal, staysOpen := false, started := none }
  | .cycle turn => (terminal.withTab (terminal.panel.cycle turn)).map .changing
  | .go tab => (terminal.withTab (terminal.panel.activate tab)).map .changing
  | .focusUp => .of (.changing (terminal.moveFocus false))
  | .focusDown => .of (.changing (terminal.moveFocus true))
  | .edit => .of (.changing terminal.beginEdit)
  | .toggleApiKey => terminal.panel.toggleApiKey.map fun panel => .changing { terminal with panel }
  | .scroll rows => .of (.changing (terminal.scrollBy rows))
  | .run trigger => .of (terminal.launch dispatcher now trigger)

/-- One key for the field that is being edited. -/
def editPress (terminal : Terminal) (buffer : EditBuffer) (press : KeyPress) : Saving Terminal :=
  match buffer.press? press with
  -- Only for a cursor inside a character, which no edit leads to.
  | none => .of terminal
  | some (buffer, true) => terminal.commitEdit buffer
  | some (buffer, false) => .of { terminal with mode := .editing buffer }

/-- One key. While a field is edited it goes to the field, and otherwise it may be a command. -/
def press (dispatcher : Dispatcher) (terminal : Terminal) (now : Instant) (press : KeyPress) :
    Saving Step :=
  match terminal.mode with
  | .editing buffer => (terminal.editPress buffer press).map .changing
  | .normal =>
    match Command.ofPress? terminal.panel press with
    | none => .of (.changing terminal)
    | some command => terminal.perform dispatcher now command

end Terminal

end StackPanel

import StackPanel.Panel.Basic
import StackPanel.Terminal.Key

/-! What keys mean while no field is edited. -/

namespace StackPanel

/-- Something an operator can ask for with a key. -/
inductive Command where
  | quit
  | cycle (turn : Turn)
  | go (tab : Tab)
  | focusUp
  | focusDown
  | edit
  | toggleApiKey
  | scroll (rows : Int)
  | run (trigger : ActionTrigger)
  deriving DecidableEq

namespace Command

/-- The command of a letter that means something on one tab only. -/
def ofLetter? (panel : Panel) (letter : Char) : Option Command :=
  match panel.tab, letter with
  | .settings, ' ' | .settings, 'a' => some .toggleApiKey
  | .service, 'h' => some (.run { id := .health })
  | .service, 's' => some (.run { id := .stats })
  | .service, 'l' => some (.run { id := .listStacks })
  | .stackList, 'r' => some (.run { id := .refreshList })
  | .stackList, 'd' =>
    -- The target is the id that the service sent, not the one in the header.
    panel.stackList.selectedCard?.map fun card =>
      .run { id := .deleteItem, target := some card.deleteTarget }
  | .inspect, 'g' => some (.run { id := .getStack })
  | .inspect, 't' => some (.run { id := .getStatus })
  | .inspect, 'D' => some (.run { id := .deleteStack })
  | .create, 'n' => some (.run { id := .createStack })
  | _, _ => none

/-- Starts an edit on a tab that has fields. -/
def editOn? (tab : Tab) : Option Command :=
  if tab.fields.isEmpty then none else some .edit

/-- The command of a character key. -/
def ofChar? (panel : Panel) : Char → Option Command
  | 'q' => some .quit
  | '1' => some (.go .settings)
  | '2' => some (.go .stackList)
  | '3' => some (.go .create)
  | '4' => some (.go .inspect)
  | '5' => some (.go .service)
  | 'k' => some .focusUp
  | 'j' => some .focusDown
  | 'x' => some (.run { id := .clearConsole })
  | 'e' => editOn? panel.tab
  | c => ofLetter? panel c

/-- The command of a key, if it has one on the active tab. -/
def ofPress? (panel : Panel) (press : KeyPress) : Option Command :=
  -- With the control key held every other key is left alone.
  if press.control then (if press.key = .char 'c' then some .quit else none)
  else match press.key with
    | .left | .backTab => some (.cycle .left)
    | .right | .tab => some (.cycle .right)
    | .up => some .focusUp
    | .down => some .focusDown
    | .pageUp => some (.scroll (-10))
    | .pageDown => some (.scroll 10)
    | .enter => editOn? panel.tab
    | .char c => ofChar? panel c
    | _ => none

end Command

end StackPanel

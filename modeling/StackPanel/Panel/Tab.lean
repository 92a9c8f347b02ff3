import StackPanel.Text.Blank

/-! The tabs of the panel. -/

namespace StackPanel

/-- A tab. -/
inductive Tab where
  | settings
  | stackList
  | create
  | inspect
  | service
  deriving DecidableEq

/-- A direction to move through the tabs. -/
inductive Turn where
  | left
  | right
  deriving DecidableEq

namespace Tab

/-- All tabs from left to right. -/
def all : List Tab := [.settings, .stackList, .create, .inspect, .service]

/-- The id under which a tab is saved. -/
def id : Tab → String
  | .settings => "settings"
  | .stackList => "stacks"
  | .create => "create"
  | .inspect => "inspect"
  | .service => "service"

/-- The title on the tab bar. -/
def title : Tab → String
  | .settings => "Settings"
  | .stackList => "Stacks"
  | .create => "Create"
  | .inspect => "Inspect"
  | .service => "Service"

/-- The tab of an id, white space around it ignored. -/
def ofId? (id : String) : Option Tab :=
  all.find? fun tab => tab.id = Text.trim id

/-- The neighbour of a tab, where the ends are neighbours too. -/
def neighbour (tab : Tab) : Turn → Tab
  | .left =>
    match tab with
    | .settings => .service
    | .stackList => .settings
    | .create => .stackList
    | .inspect => .create
    | .service => .inspect
  | .right =>
    match tab with
    | .settings => .stackList
    | .stackList => .create
    | .create => .inspect
    | .inspect => .service
    | .service => .settings

/-- The tab to start with when none is configured. -/
def initial : Tab := .settings

end Tab

end StackPanel

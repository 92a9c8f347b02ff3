import StackPanel.Action.Outcome
import StackPanel.Config.Settings
import StackPanel.Panel.Console
import StackPanel.Panel.Field
import StackPanel.Panel.Preferences
import StackPanel.Stack.Card

/-! The state of the panel and the steps of an action through it. -/

namespace StackPanel

/-- The state of the panel. -/
structure Panel where
  /-- Whether an action is under way, during which no other can start. -/
  isBusy : Bool
  /-- The console. -/
  console : ConsoleRecord
  /-- The list of stacks. -/
  stackList : StackList
  /-- The active tab. -/
  tab : Tab
  /-- The contents of the fields. -/
  inputs : Inputs
  /-- The kept choices. -/
  preferences : Preferences
  /-- The configured address, used while the typed one is blank. -/
  origin : String
  /-- The shape in which ports are sent. -/
  encoding : PortEncoding
  deriving DecidableEq

namespace Panel

/-- The key to start with: from the command line, saved, from the settings file, or none. -/
def initialApiKey (settings : Settings) (preferences : Preferences) : String :=
  ((settings.apiKeyOverride.or (preferences.get? .apiKey)).or settings.fileApiKey).getD ""

/-- A new panel. -/
def start (settings : Settings) (preferences : Preferences) : Panel :=
  { isBusy := false
    console := .idle
    stackList := .initial
    tab := preferences.restoredTab settings.defaultTab
    inputs := {
      baseUrl := settings.baseUrl
      apiKey := initialApiKey settings preferences
      sendsApiKey := (preferences.getBool? .sendsApiKey).getD true
      stackId := ""
      lastStackId := ""
      targetPort := "80"
      podSpec := settings.podSpec }
    preferences
    origin := settings.baseUrl
    encoding := settings.encoding }

/-- Where requests go at present. -/
def connection (panel : Panel) : Connection :=
  .ofSettings panel.inputs.baseUrl panel.origin panel.inputs.apiKey panel.inputs.sendsApiKey

/-- Replaces the text of a field; a key is saved as well. -/
def setInput (panel : Panel) (field : Field) (text : String) : Saving Panel :=
  let panel := { panel with inputs := panel.inputs.set field text }
  if field = .apiKey then
    (panel.preferences.set .apiKey text).map fun preferences => { panel with preferences }
  else .of panel

/-- Changes whether the key is sent, and saves the choice. -/
def toggleApiKey (panel : Panel) : Saving Panel :=
  let sends := !panel.inputs.sendsApiKey
  let panel := { panel with inputs := { panel.inputs with sendsApiKey := sends } }
  (panel.preferences.setBool .sendsApiKey sends).map fun preferences => { panel with preferences }

/-- Puts the id of a new stack into the fields that single-stack actions read. -/
def propagateStackId (panel : Panel) (id : String) : Panel :=
  if id.isEmpty then panel
  else { panel with inputs := { panel.inputs with stackId := id, lastStackId := id } }

/-- Makes a tab active and saves the choice. -/
def activate (panel : Panel) (tab : Tab) : Saving Panel :=
  (panel.preferences.set .activeTab tab.id).map fun preferences =>
    { panel with tab, preferences }

/-- Makes the neighbour of the active tab active. -/
def cycle (panel : Panel) (turn : Turn) : Saving Panel :=
  panel.activate (panel.tab.neighbour turn)

/-- The inputs of an action that starts now. -/
def context (panel : Panel) (target : Option String) : ActionContext :=
  { connection := panel.connection
    stackId := panel.inputs.stackId
    target
    targetPort := panel.inputs.targetPort
    podSpec := panel.inputs.podSpec
    encoding := panel.encoding }

/-- The panel once an action is under way. -/
def begin (panel : Panel) (now : Instant) (title : String) : Panel :=
  { panel with isBusy := true, console := .running now title }

/-- Shows a list that an action fetched. -/
def showListing (panel : Panel) : Option Listing → Panel
  | none => panel
  | some (.ok summaries) => { panel with stackList := panel.stackList.render summaries }
  | some (.error message) => { panel with stackList := .renderPlaceholder message }

/-- Shows the result of an action or its error. -/
def showResult (panel : Panel) (now : Instant) (title : String) :
    Except ActionError ActionOutput → Panel
  | .ok output =>
    let panel := match output.createdStackId with
      | some id => panel.propagateStackId id
      | none => panel
    { panel with console := .success now title output.record }
  | .error error => { panel with console := .failure now title error }

/-- The panel once an action has ended, open for the next one. -/
def complete (panel : Panel) (now : Instant) (completion : Completion) : Panel :=
  -- The list comes first: it is shown whether or not the action succeeded.
  let panel := panel.showListing completion.outcome.listing
  let panel := panel.showResult now completion.title completion.outcome.result
  { panel with isBusy := false }

end Panel

end StackPanel

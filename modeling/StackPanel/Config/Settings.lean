import StackPanel.Create.Request
import StackPanel.Panel.Tab

/-! The settings a panel starts with, after all their sources are merged. -/

namespace StackPanel

/-- The settings of one run. -/
structure Settings where
  /-- The address of the service. -/
  baseUrl : String
  /-- A key from the command line or the environment, which beats a saved one. -/
  apiKeyOverride : Option String
  /-- A key from the settings file, which counts only if none is saved. -/
  fileApiKey : Option String
  /-- The shape in which ports are sent. -/
  encoding : PortEncoding
  /-- The tab to start with if none is saved. -/
  defaultTab : Tab
  /-- The pod description that a new form starts with. -/
  podSpec : String
  deriving DecidableEq

namespace Settings

/-- The address of the service when none is configured. -/
def defaultBaseUrl : String := "http://localhost:8081"

/-- The settings when nothing is configured. -/
def initial : Settings :=
  { baseUrl := defaultBaseUrl
    apiKeyOverride := none
    fileApiKey := none
    encoding := .list
    defaultTab := Tab.initial
    podSpec := defaultPodSpec }

end Settings

end StackPanel

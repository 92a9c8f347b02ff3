/-! Where settings, preferences and the log are kept. -/

namespace StackPanel

/-- The variables of the environment that name directories. -/
structure Directories where
  /-- The directory for settings. -/
  configHome : Option String := none
  /-- The directory for data. -/
  dataHome : Option String := none
  /-- The home directory. -/
  home : Option String := none
  deriving DecidableEq

namespace Directories

/-- A path with one more name at its end; an empty path has no separator. -/
def join (path name : String) : String :=
  if path.isEmpty then name
  else if path.endsWith "/" then path ++ name
  else path ++ "/" ++ name

/-- The directory of the settings file. -/
def config (directories : Directories) : String :=
  let base := match directories.configHome, directories.home with
    | some path, _ => path
    | none, some home => join home ".config"
    | none, none => "."
  join base "cpdash"

/-- The settings file. -/
def configFile (directories : Directories) : String :=
  join directories.config "config.toml"

/-- The directory of the preferences and the log. -/
def data (directories : Directories) : String :=
  let base := match directories.dataHome with
    | some path => path
    | none => join (directories.home.getD ".") ".local/share"
  join base "cpdash"

/-- The file of the preferences. -/
def preferences (directories : Directories) : String :=
  join directories.data "preferences.json"

/-- The file of the log. -/
def log (directories : Directories) : String :=
  join directories.data "cpdash.log"

end Directories

end StackPanel

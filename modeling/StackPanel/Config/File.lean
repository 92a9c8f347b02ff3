import StackPanel.Config.Settings
import StackPanel.Reading
import StackPanel.Toml.Reader

/-! The settings file, and the settings that come of it. -/

namespace StackPanel

/-- What a settings file says, with defaults for what it leaves out. -/
structure ConfigFile where
  /-- The address of the service. -/
  baseUrl : String := Settings.defaultBaseUrl
  /-- The key to send if none is saved. -/
  apiKey : Option String := none
  /-- The shape in which ports are sent. -/
  encoding : PortEncoding := .list
  /-- The id of the tab to start with. -/
  defaultTab : String := Tab.initial.id
  /-- The file with the pod description that a new form starts with. -/
  podSpecTemplate : Option String := none
  deriving DecidableEq

/-- Why there are no settings to start with. -/
inductive ConfigError where
  | fileUnreadable (path : String)
  | fileMalformed (path : String)
  | templateUnreadable (path : String)
  deriving DecidableEq

/-- The wording of an error. -/
def ConfigError.message : ConfigError → String
  | .fileUnreadable path => "Failed to read config file at " ++ path
  | .fileMalformed path => "Failed to parse config file at " ++ path
  | .templateUnreadable path => "Failed to read pod spec template at " ++ path

/-- Values that are given outside the file and win over it. -/
structure Overrides where
  /-- The address of the service. -/
  baseUrl : Option String := none
  /-- The key to send. -/
  apiKey : Option String := none
  /-- The shape in which ports are sent. -/
  encoding : Option PortEncoding := none
  deriving DecidableEq

namespace ConfigFile

/-- Text under a key, or a default if the key is absent. -/
def textOr? (fields : Toml.Fields) (key default : String) : Option String :=
  match Entries.find? key fields with
  | none => some default
  | some (.text value) => some value
  | some _ => none

/-- Text under a key that may be absent. -/
def optionalText? (fields : Toml.Fields) (key : String) : Option (Option String) :=
  match Entries.find? key fields with
  | none => some none
  | some (.text value) => some (some value)
  | some _ => none

/-- An encoding, either by its name or as the only key of a table, over an empty value. -/
def encodingOf? : Toml → Option PortEncoding
  | .text name => PortEncoding.ofName? name
  -- The name of an encoding may also stand as a key over nothing.
  | .table _ [(name, .table _ [])] => PortEncoding.ofName? name
  | .table _ [(name, .array [])] => PortEncoding.ofName? name
  | _ => none

/-- The encoding under its key, or the default one. -/
def encodingOr? (fields : Toml.Fields) : Option PortEncoding :=
  match Entries.find? "target_port_encoding" fields with
  | none => some .list
  | some value => encodingOf? value

/-- What the fields of a document say; keys that mean nothing here are passed over. -/
def ofFields? (fields : Toml.Fields) : Option ConfigFile := do
  let baseUrl ← textOr? fields "base_url" Settings.defaultBaseUrl
  let apiKey ← optionalText? fields "api_key"
  let encoding ← encodingOr? fields
  let defaultTab ← textOr? fields "default_tab" Tab.initial.id
  let podSpecTemplate ← optionalText? fields "pod_spec_template"
  return { baseUrl, apiKey, encoding, defaultTab, podSpecTemplate }

/-- What a text says. -/
def parse? (text : String) : Option ConfigFile :=
  (Toml.parse? text).bind ofFields?

/-- What was found at a path; a missing file says nothing. -/
def load (path : String) : Reading → Except ConfigError ConfigFile
  | .missing => .ok {}
  | .unreadable | .garbled => .error (.fileUnreadable path)
  | .content text =>
    match parse? text with
    | some file => .ok file
    | none => .error (.fileMalformed path)

/-- The pod description to start with: what was found in the named file, or the built-in one. -/
def podSpec (file : ConfigFile) (found : Reading) : Except ConfigError String :=
  match file.podSpecTemplate with
  | none => .ok defaultPodSpec
  | some path =>
    match found with
    | .content text => .ok text
    | _ => .error (.templateUnreadable path)

/-- The settings of a run: overrides win over the file. What was found in the file named for the pod
description is only looked at if there is such a name. -/
def settings (file : ConfigFile) (overrides : Overrides) (found : Reading) :
    Except ConfigError Settings :=
  (file.podSpec found).map fun podSpec =>
    { baseUrl := overrides.baseUrl.getD file.baseUrl
      apiKeyOverride := overrides.apiKey
      fileApiKey := file.apiKey
      encoding := overrides.encoding.getD file.encoding
      defaultTab := (Tab.ofId? file.defaultTab).getD Tab.initial
      podSpec }

/-- The text of a settings file to start from. -/
def template : String :=
  "# cpdash configuration
# Run `cpdash --init` to regenerate this file.

# Service origin. The Settings tab can override it per session.
base_url = \"http://localhost:8081\"

# API key sent as X-API-KEY. A key saved from the Settings tab takes precedence.
# api_key = \"...\"

# Shape of target_port in POST /stacks:
#   \"list\"    → [\x7b\"container_port\": 80, \"protocol\": \"TCP\"\x7d]
#   \"integer\" → 80   (one TCP port only)
target_port_encoding = \"list\"

# Tab shown until another one has been selected: settings, stacks, create, inspect, service
default_tab = \"settings\"

# Optional pod spec preloaded into the create form
# pod_spec_template = \"/path/to/pod.yaml\"
"

end ConfigFile

end StackPanel

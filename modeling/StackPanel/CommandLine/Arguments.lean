import StackPanel.CommandLine.Scan
import StackPanel.Config.File

/-! What a command line asks for. -/

namespace StackPanel.CommandLine

/-- A single action to carry out without opening the panel. -/
inductive Job where
  | health
  | stats
  | list
  | get (stackId : String)
  | status (stackId : String)
  | delete (stackId : String)
  | create (ports : String) (podSpec : Option String)
  deriving DecidableEq

/-- What a command line asks for. -/
structure Arguments where
  /-- The action to carry out; without one the panel opens. -/
  job : Option Job
  /-- The address of the service. -/
  baseUrl : Option String
  /-- The key to send. -/
  apiKey : Option String
  /-- The shape in which ports are sent. -/
  encoding : Option PortEncoding
  /-- Whether to write a settings file and end. -/
  writesConfig : Bool
  /-- The shell to print completions for. -/
  completions : Option String
  deriving DecidableEq

/-- Values from the environment that stand in for options. -/
structure Environment where
  /-- The address of the service. -/
  baseUrl : Option String := none
  /-- The key to send. -/
  apiKey : Option String := none
  deriving DecidableEq

/-- The command that explains the others. -/
def helpCommand : String := "help"

/-- The commands that start a job. -/
def jobCommands : List String :=
  ["health", "stats", "list", "get", "status", "delete", "create"]

/-- What may stand before a command. -/
def Grammar.main : Grammar :=
  { options := [
      { name := "base-url" },
      { name := "api-key" },
      { name := "encoding", accepts := fun name => (PortEncoding.ofName? name).isSome },
      { name := "init", takesValue := false },
      { name := "completions" }]
    words := 0
    commands := helpCommand :: jobCommands }

/-- What may stand after a command. -/
def Grammar.ofCommand (command : String) : Grammar :=
  if command = "create" then
    { options := [{ name := "port" }, { name := "pod-spec", accepts := fun path => !path.isEmpty }]
      words := 0
      commands := [] }
  else
    { options := []
      words := if command = "get" || command = "status" || command = "delete" then 1 else 0
      commands := [] }

/-- The ports of a new stack when none are given. -/
def defaultPorts : String := "80"

/-- The job of a command with what was found after it. -/
def Job.ofScan (command : String) (scan : Scan) : Except UsageError Job :=
  match command, scan.words with
  | "health", _ => .ok .health
  | "stats", _ => .ok .stats
  | "list", _ => .ok .list
  | "create", _ =>
    .ok (.create ((scan.value? "port").getD defaultPorts) (scan.value? "pod-spec"))
  | "get", [id] => .ok (.get id)
  | "status", [id] => .ok (.status id)
  | "delete", [id] => .ok (.delete id)
  | _, _ => .error .missingArgument

/-- The end of a request for help about commands, of which the first may be named. -/
def explain : List String → UsageError
  | [] => .helpRequested
  | [command] =>
    if command ∈ helpCommand :: jobCommands then .helpRequested else .unknownCommand
  | _ => .unknownCommand

/-- Reads a command and the words after it. -/
def Job.parse (command : String) (words : List String) : Except UsageError Job :=
  if command = helpCommand then .error (explain words)
  else do
    let found ← (Grammar.ofCommand command).read {} words
    Job.ofScan command (← found.scan.settle)

namespace Arguments

/-- Reads a command line without the program's name. Mistakes after the command count before a bad
value of the option in front of it, and options count before the environment. -/
def parse (environment : Environment) (words : List String) : Except UsageError Arguments := do
  let found ← Grammar.main.read {} words
  let job ← match found.command with
    | some (command, rest) => (Job.parse command rest).map some
    | none => .ok none
  let scan ← found.scan.settle
  return {
    job
    baseUrl := (scan.value? "base-url").or environment.baseUrl
    apiKey := (scan.value? "api-key").or environment.apiKey
    encoding := (scan.value? "encoding").bind PortEncoding.ofName?
    writesConfig := (scan.value? "init").isSome
    completions := scan.value? "completions" }

/-- The values that win over the settings file. -/
def overrides (arguments : Arguments) : Overrides :=
  { baseUrl := arguments.baseUrl, apiKey := arguments.apiKey, encoding := arguments.encoding }

end Arguments

end StackPanel.CommandLine

import StackPanel.CommandLine.Help
import StackPanel.CommandLine.Job
import StackPanel.Config.Paths

/-! The whole run of the program, from its arguments to its end. -/

namespace StackPanel.CommandLine

/-- How a run ends. -/
inductive Ending where
  /-- With an exit code. -/
  | exit (code : Nat)
  /-- With the panel open. -/
  | panel (settings : Settings) (preferences : Preferences) (logPath : Option String)

/-- Complains about a failure and ends. -/
def fail (message : String) : Program Ending :=
  .complain ("Error: " ++ message ++ "\n") (.done (.exit 1))

/-- Complains about a failure and what caused it, and ends. -/
def failBecause (message cause : String) : Program Ending :=
  fail (message ++ "\n\nCaused by:\n    " ++ cause)

/-- Writes a settings file to start from unless there is one, and gives its path, or the reason if
that fails. -/
def writeConfig (directories : Directories) : Program (Except String String) :=
  let path := directories.configFile
  .look path fun
    | true => .done (.ok path)
    | false =>
      .makeDirectory directories.config fun
        | some reason => .done (.error reason)
        | none =>
          .write path ConfigFile.template fun
            | some reason => .done (.error reason)
            | none => .done (.ok path)

/-- Opens the preferences, after making their directory. -/
def openPreferences (directories : Directories) : Program Preferences :=
  .makeDirectory directories.data fun reason =>
    -- Without a directory the file is not looked at, and the choices are never written.
    if reason.isSome then .done (.load false .missing)
    else .read directories.preferences fun found => .done (.load true found)

/-- Merges the settings file with what was given outside it. -/
def loadSettings (directories : Directories) (overrides : Overrides) :
    Program (Except ConfigError Settings) :=
  let path := directories.configFile
  .read path fun found =>
    match ConfigFile.load path found with
    | .error error => .done (.error error)
    | .ok file =>
      match file.podSpecTemplate with
      | none => .done (file.settings overrides .missing)
      | some template => .read template fun found => .done (file.settings overrides found)

/-- What caused an error in the settings. -/
def causeOf : ConfigError → String
  | .fileUnreadable _ => "the file cannot be read as text"
  | .fileMalformed _ => "the file does not hold valid settings"
  | .templateUnreadable _ => "the file cannot be read as text"

/-- Carries out a job, prints its report where it belongs and ends. The choices are kept in a
file. -/
def endWith (job : Job) (path : String) (settings : Settings) (preferences : Preferences) :
    Program Ending :=
  (job.run path settings preferences).bind fun
    | .error message => failBecause message "the text cannot be read"
    | .ok report =>
      if report.succeeded then .print report.text (.done (.exit 0))
      else .complain report.text (.done (.exit 1))

/-- Loads the settings and the preferences, then carries out the job or opens the panel. -/
def start (directories : Directories) (arguments : Arguments) : Program Ending :=
  -- The log is opened before anything can fail, and a log that cannot be opened stops nothing.
  .openLog directories.log fun logs =>
    (loadSettings directories arguments.overrides).bind fun
      | .error error => failBecause error.message (causeOf error)
      | .ok settings =>
        (openPreferences directories).bind fun preferences =>
          match arguments.job with
          | some job => endWith job directories.preferences settings preferences
          | none =>
            .done (.panel settings preferences (if logs then some directories.log else none))

/-- Prints the completion script of a shell and ends. -/
def printCompletions (shell : String) : Program Ending :=
  match completionScript? shell with
  | some script => .print script (.done (.exit 0))
  | none => fail (unknownShell shell)

/-- Writes the settings file, says where it is and ends. -/
def printConfigPath (directories : Directories) : Program Ending :=
  (writeConfig directories).bind fun
    | .error reason => fail reason
    | .ok path =>
      .print ("Config written to: " ++ path ++ "\nEdit it, then run: cpdash\n") (.done (.exit 0))

/-- The run of the program. A mistake on the command line ends it at once, and writing the settings
file comes before printing completions. -/
def run (directories : Directories) (environment : Environment) (words : List String) :
    Program Ending :=
  match Arguments.parse environment words with
  | .error .helpRequested => .print helpText (.done (.exit 0))
  | .error error => .complain ("error: " ++ error.message ++ "\n") (.done (.exit 2))
  | .ok arguments =>
    if arguments.writesConfig then printConfigPath directories
    else match arguments.completions with
      | some shell => printCompletions shell
      | none => start directories arguments

/-- The run of the program without a terminal, where the panel cannot open, down to the exit
code. -/
def runDetached (directories : Directories) (environment : Environment) (words : List String) :
    Program Nat :=
  (run directories environment words).bind fun
    | .exit code => .done code
    | .panel _ _ _ => .complain "Error: No such device or address (os error 6)\n" (.done 1)

end StackPanel.CommandLine

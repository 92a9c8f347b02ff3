import StackPanel.CommandLine.Arguments

/-! What the command line says about itself. -/

namespace StackPanel.CommandLine

/-- The explanation of all commands and options. -/
def helpText : String :=
  "Terminal control panel for the stack lifecycle API

Usage: cpdash [OPTIONS] [COMMAND]

Commands:
  health            GET /healthz
  stats             GET /stats
  list              GET /stacks
  get <STACK_ID>    GET /stacks/\x7bstack_id\x7d
  status <STACK_ID> GET /stacks/\x7bstack_id\x7d/status
  delete <STACK_ID> DELETE /stacks/\x7bstack_id\x7d
  create            POST /stacks (options: --port <PORT>, --pod-spec <FILE>)
  help              Print this help

Options:
      --base-url <BASE_URL>   Override the service base URL [env: CPDASH_BASE_URL]
      --api-key <API_KEY>     Override the API key sent as X-API-KEY [env: CPDASH_API_KEY]
      --encoding <ENCODING>   Wire shape of target_port in create requests [list, integer]
      --init                  Write a default config file and exit
      --completions <SHELL>   Generate shell completions (bash, zsh, fish, elvish)
  -h, --help                  Print help
"

/-- The wording of a mistake on the command line. -/
def UsageError.message : UsageError → String
  | .unknownArgument => "unexpected argument found"
  | .unknownCommand => "unrecognized subcommand"
  | .missingArgument => "a required argument was not provided"
  | .invalidValue => "invalid or missing value for an option"
  | .repeatedArgument => "an option cannot be used multiple times"
  | .unexpectedValue => "unexpected value for a flag"
  | .helpRequested => helpText

/-- The words that a shell can complete. -/
def completionWords : String :=
  " ".intercalate (helpCommand :: jobCommands ++
    (Grammar.main.options.map fun option => "--" ++ option.name) ++ ["--help"])

/-- The completion script for a shell, whose name may be in any case. -/
def completionScript? (shell : String) : Option String :=
  let name := String.ofList (shell.toList.map Char.toLower)
  if name = "bash" then some ("complete -W \"" ++ completionWords ++ "\" cpdash\n")
  else if name = "zsh" then
    some ("#compdef cpdash\n_arguments '*:argument:(" ++ completionWords ++ ")'\n")
  else if name = "fish" then some ("complete -c cpdash -f -a \"" ++ completionWords ++ "\"\n")
  else if name = "elvish" then
    some ("set edit:completion:arg-completer[cpdash] = \x7b|@words| put " ++ completionWords ++
      " \x7d\n")
  else none

/-- The wording for a shell without a script. -/
def unknownShell (shell : String) : String :=
  "Unknown shell: " ++ shell ++ " (supported: bash, zsh, fish, elvish)"

end StackPanel.CommandLine

import StackPanel.Text.Pieces

/-! Splitting a command line into options, plain words and a command. -/

namespace StackPanel.CommandLine

/-- Why a command line ends without anything to do. -/
inductive UsageError where
  | unknownArgument
  | unknownCommand
  | missingArgument
  | invalidValue
  | repeatedArgument
  | unexpectedValue
  | helpRequested
  deriving DecidableEq

/-- An option, written with two dashes before its name. -/
structure OptionSpec where
  /-- The name. -/
  name : String
  /-- Whether a value belongs to it. -/
  takesValue : Bool := true
  /-- Whether it accepts a value. -/
  accepts : String → Bool := fun _ => true

/-- What may stand on a command line, either before a command or after it. -/
structure Grammar where
  /-- The options, apart from the one that asks for help. -/
  options : List OptionSpec
  /-- The number of plain words. -/
  words : Nat
  /-- The commands that may follow. -/
  commands : List String

/-- What has been found so far. -/
structure Scan where
  /-- Options with their values. -/
  given : List (String × String) := []
  /-- The option found last, whose value is still to come or has not been looked at yet. -/
  pending : Option (OptionSpec × Option String) := none
  /-- Plain words. -/
  words : List String := []
  /-- Whether two dashes have ended the options. -/
  onlyWords : Bool := false

namespace Scan

/-- The value of an option. -/
def value? (scan : Scan) (name : String) : Option String :=
  scan.given.lookup name

/-- Takes an option with its value, which it must not have already and must accept. -/
def give (scan : Scan) (option : OptionSpec) (value : String) : Except UsageError Scan :=
  if (scan.value? option.name).isSome then .error .repeatedArgument
  else if option.accepts value then .ok { scan with given := scan.given ++ [(option.name, value)] }
  else .error .invalidValue

/-- Looks at the value of the option found last. -/
def settle (scan : Scan) : Except UsageError Scan :=
  match scan.pending with
  | none => .ok scan
  -- Another option, or the end, came where a value was due.
  | some (_, none) => .error .invalidValue
  | some (option, some value) => { scan with pending := none }.give option value

/-- Whether the next word is the value of an option. -/
def awaitsValue (scan : Scan) : Bool :=
  match scan.pending with
  | some (_, none) => !scan.onlyWords
  | _ => false

/-- Ends in a request for help, unless the option before it is at fault. -/
def help (scan : Scan) : Except UsageError Scan :=
  scan.settle.bind fun _ => .error .helpRequested

/-- Takes an option by its name, with the value that is attached to it. A value of its own word is
only looked at once the next option or the end is reached. -/
def option (scan : Scan) (grammar : Grammar) (name : String) (attached : Option String) :
    Except UsageError Scan :=
  if name = "help" then
    if attached.isSome then .error .unexpectedValue else scan.help
  else match grammar.options.find? (·.name = name) with
    | none => .error .unknownArgument
    | some option =>
      if option.takesValue then do
        let scan ← scan.settle
        match attached with
        | some value => scan.give option value
        | none => return { scan with pending := some (option, none) }
      else if attached.isSome then .error .unexpectedValue
      else scan.settle.bind fun scan => scan.give option "true"

/-- Takes a plain word, if there is a place for it. -/
def word (scan : Scan) (grammar : Grammar) (text : String) : Except UsageError Scan :=
  if scan.words.length < grammar.words then
    scan.settle.map fun scan => { scan with words := scan.words ++ [text] }
  else if grammar.commands.isEmpty || (scan.onlyWords && text ∈ grammar.commands) then
    .error .unknownArgument
  else .error .unknownCommand

/-- Takes the next word of the command line, which is no command. -/
def step (scan : Scan) (grammar : Grammar) (text : String) : Except UsageError Scan :=
  if scan.onlyWords then scan.word grammar text
  else match text.toList with
    | ['-', '-'] => .ok { scan with onlyWords := true }
    | '-' :: '-' :: rest =>
      let (name, attached) := Text.splitOnce '=' rest
      scan.option grammar (String.ofList name) (attached.map String.ofList)
    | '-' :: letter :: _ => if letter = 'h' then scan.help else .error .unknownArgument
    | _ =>
      -- No option: the value that is due, or else a plain word.
      match scan.pending with
      | some (option, none) => .ok { scan with pending := some (option, some text) }
      | _ => scan.word grammar text

end Scan

/-- What was found before a command, and the command with the words after it. -/
structure Found where
  /-- What was found. -/
  scan : Scan
  /-- The command and the words after it, if there is one. -/
  command : Option (String × List String)

/-- Reads a command line up to its first command. -/
def Grammar.read (grammar : Grammar) (scan : Scan) : List String → Except UsageError Found
  | [] => .ok { scan, command := none }
  | text :: rest =>
    if !scan.onlyWords && !scan.awaitsValue && text ∈ grammar.commands then
      .ok { scan, command := some (text, rest) }
    else (scan.step grammar text).bind fun scan => grammar.read scan rest

end StackPanel.CommandLine

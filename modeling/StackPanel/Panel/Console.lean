import StackPanel.Instant.Value
import StackPanel.Service.Response

/-! The console: one record of what happened last. -/

namespace StackPanel

/-- How the recorded action stands. -/
inductive RecordState where
  | idle
  | running
  | ok
  | error
  deriving DecidableEq

/-- The record that the console shows. -/
structure ConsoleRecord where
  /-- When it was made; only the idle record has no time. -/
  stamp : Option Instant
  /-- Its title. -/
  title : String
  /-- Its body, over any number of lines. -/
  body : String
  /-- How the action stands. -/
  state : RecordState
  /-- The kind of its error, if it is one. -/
  errorKind : Option ErrorKind
  deriving DecidableEq

namespace ConsoleRecord

/-- A value as the body of a record: text as it is, anything else as indented JSON. -/
def bodyOf : Json → String
  | .text value => value
  | value => value.indented

/-- The record before any action. -/
def idle : ConsoleRecord :=
  { stamp := none, title := "", body := "ready", state := .idle, errorKind := none }

/-- An action that is under way. -/
def running (now : Instant) (title : String) : ConsoleRecord :=
  { stamp := some now
    title
    body := bodyOf (.object [("status", .text "running")])
    state := .running
    errorKind := none }

/-- An action that succeeded. -/
def success (now : Instant) (title : String) (body : Json) : ConsoleRecord :=
  { stamp := some now, title, body := bodyOf body, state := .ok, errorKind := none }

/-- An action that failed. -/
def failure (now : Instant) (title : String) (error : ActionError) : ConsoleRecord :=
  { stamp := some now
    title := title ++ " (ERROR)"
    body := bodyOf error.record
    state := .error
    errorKind := some error.kind }

/-- The line that names the kind of an error. -/
def kindLine? (record : ConsoleRecord) : Option String :=
  record.errorKind.map fun kind => "kind: " ++ kind.label

/-- A record as plain text: a heading with its time and title, the kind of an error, and after an
empty line the body. Without a time the body stands alone. -/
def text (record : ConsoleRecord) : String :=
  match record.stamp with
  | none => record.body
  | some stamp =>
    let kind := match record.kindLine? with
      | some line => line ++ "\n"
      | none => ""
    "[" ++ stamp.text ++ "] " ++ record.title ++ "\n" ++ kind ++ "\n" ++ record.body

end ConsoleRecord

end StackPanel

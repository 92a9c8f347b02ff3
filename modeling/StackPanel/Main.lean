import Std.Async.DNS
import Std.Async.TCP
import Std.Time
import StackPanel.CommandLine.Run
import StackPanel.Screen.Escapes
import StackPanel.Service.Message

/-! The program: its steps carried out in the world, and the panel at a terminal. -/

namespace StackPanel.Main

open Std.Async
open StackPanel.CommandLine (Ending Program)

/-- The clock. -/
def now : IO Instant := do
  let time ← Std.Time.Timestamp.now
  return .ofUnixMilliseconds time.toMillisecondsSinceUnixEpoch.val

/-- What reading a file finds. -/
def readFile (path : String) : IO Reading := do
  try
    return .ofBytes (← IO.FS.readBinFile path)
  catch
    | .noFileOrDirectory .. => return .missing
    | _ => return .unreadable

/-- The bytes from here to the end of a stream. -/
partial def readToEnd (stream : IO.FS.Stream) (start : ByteArray) : IO ByteArray := do
  let bytes ← stream.read 65536
  if bytes.isEmpty then return start else readToEnd stream (start ++ bytes)

/-- What is typed until the input ends. -/
def readInput : IO Reading := do
  return .ofBytes (← readToEnd (← IO.getStdin) .empty)

/-- Whether there is anything at a path. -/
def isPresent (path : String) : IO Bool := do
  try
    let _ ← IO.FS.Handle.mk path .read
    return true
  catch
    -- What may not be opened is there all the same.
    | .permissionDenied .. => return true
    | _ => return false

/-- Takes a step that may fail, and gives the reason if it does. -/
def attempt (step : IO Unit) : IO (Option String) := do
  try
    step
    return none
  catch error => return some error.toString

/-- A path without its last name. -/
def parent (path : String) : String :=
  "/".intercalate (path.splitOn "/").dropLast

/-- Opens a file to add lines to, after making its directory. -/
def openLog (path : String) : IO Bool := do
  let reason ← attempt do
    IO.FS.createDirAll (parent path)
    let _ ← IO.FS.Handle.mk path .append
  return reason.isNone

/-- The bytes that a connection still brings. -/
partial def receive (client : TCP.Socket.Client) (start : ByteArray) : Async ByteArray := do
  match ← client.recv? 65536 with
  | some bytes => receive client (start ++ bytes)
  | none => return start

/-- A connection to the first of some addresses that takes one. -/
def connect (port : UInt16) : List Std.Net.IPAddr → Async TCP.Socket.Client
  | [] => throw (.userError "no address for the host")
  | address :: rest => do
    let client ← TCP.Socket.Client.mk
    try
      client.connect (match address with
        | .v4 address => .v4 ⟨address, port⟩
        | .v6 address => .v6 ⟨address, port⟩)
      return client
    catch error => if rest.isEmpty then throw error else connect port rest

/-- Sends a request over a connection of its own and gives what came back. -/
def exchangeBytes (target : Wire.Target) (request : Request) : Async ByteArray := do
  let addresses ← DNS.getAddrInfo target.host (toString target.port)
  let client ← connect (UInt16.ofNat target.port) addresses.toList
  client.send (Wire.requestText target request).toUTF8
  -- The service closes the connection, so all it sends is one response.
  receive client .empty

/-- Sends a request. -/
def send (request : Request) : IO Reply := do
  match Wire.Target.ofUrl? request.url with
  | none => return .unsent request.url "builder error"
  | some target =>
    if Wire.hasPlainHeaders request then
      try
        return Wire.replyOfBytes request.url (← (exchangeBytes target request).block)
      catch error => return .unsent request.url error.toString
    else return .unsent request.url "builder error"

/-- Carries out a program. -/
def carryOut {α : Type} : Program α → IO α
  | .done result => return result
  | .print text next => do
    (← IO.getStdout).putStr text
    carryOut next
  | .complain text next => do
    (← IO.getStderr).putStr text
    carryOut next
  | .look path next => do carryOut (next (← isPresent path))
  | .read path next => do carryOut (next (← readFile path))
  | .readInput next => do carryOut (next (← readInput))
  | .makeDirectory path next => do carryOut (next (← attempt (IO.FS.createDirAll path)))
  | .write path text next => do carryOut (next (← attempt (IO.FS.writeFile path text)))
  | .openLog path next => do carryOut (next (← openLog path))
  | .now next => do carryOut (next (← now))
  | .send request next => do carryOut (next (← send request))

/-- The directories that the environment names. -/
def directories : IO Directories := do
  return {
    configHome := ← IO.getEnv "XDG_CONFIG_HOME"
    dataHome := ← IO.getEnv "XDG_DATA_HOME"
    home := ← IO.getEnv "HOME" }

/-- The values in the environment that stand in for options. -/
def environment : IO CommandLine.Environment := do
  return {
    baseUrl := ← IO.getEnv "CPDASH_BASE_URL"
    apiKey := ← IO.getEnv "CPDASH_API_KEY" }

/-- A size from the environment, at least a smallest one. -/
def sizeOf (name : String) (usual least : Nat) : IO Nat := do
  let given := (← IO.getEnv name).bind fun text => Text.decimal? text.toList
  return max (given.getD usual) least

/-- Draws the screen. -/
def draw (terminal : Terminal) : IO Unit := do
  let columns ← sizeOf "COLUMNS" 100 20
  let rows ← sizeOf "LINES" 32 17
  let out ← IO.getStdout
  -- The last row is for what is typed.
  out.putStr (Screen.Frame.draw terminal columns (rows - 1)).escaped
  out.flush

/-- Makes the requests of an action that was started and shows how it ended. -/
def finish (terminal : Terminal) (pending : PendingAction) : IO Terminal := do
  -- Drawn before any request, so that the action is seen to be under way.
  draw terminal
  let outcome ← carryOut (Program.ofExchange pending.exchange)
  return terminal.deliver (← now) (pending.completion outcome)

/-- Takes keys one after another, up to one that closes the panel. -/
def pressAll (path : String) (terminal : Terminal) : List KeyPress → IO (Option Terminal)
  | [] => return some terminal
  | press :: rest => do
    let saving := terminal.press Dispatcher.standard (← now) press
    let step ← carryOut (Program.save path saving)
    if step.staysOpen then
      match step.started with
      | some pending => pressAll path (← finish step.terminal pending) rest
      | none => pressAll path step.terminal rest
    else return none

/-- Draws the panel and takes the keys of one line after another, until a key closes the panel or
the input ends. -/
partial def converse (path : String) (terminal : Terminal) : IO Unit := do
  draw terminal
  let line ← (← IO.getStdin).getLine
  unless line.isEmpty do
    let keys := KeyPress.ofLine (String.ofList (line.toList.filter (· ≠ '\n')))
    match ← pressAll path terminal keys with
    | some terminal => converse path terminal
    | none => return

/-- Runs the program, at a terminal with the panel and anywhere else without. -/
def run (words : List String) : IO Nat := do
  let directories ← directories
  let environment ← environment
  if ← (← IO.getStdin).isTty then
    match ← carryOut (CommandLine.run directories environment words) with
    | .exit code => return code
    | .panel settings preferences logPath =>
      converse directories.preferences (.start (.start settings preferences) logPath)
      return 0
  else carryOut (CommandLine.runDetached directories environment words)

end StackPanel.Main

/-- The program's entry. -/
def main (words : List String) : IO UInt32 := do
  return UInt32.ofNat (← StackPanel.Main.run words)

import StackPanel.Create.InputError
import StackPanel.Text.Blank
import StackPanel.Text.Digits
import StackPanel.Text.Pieces

/-! The ports of a new stack, as an operator lists them. -/

namespace StackPanel

/-- The transport protocols a port can be opened for. -/
inductive Transport where
  | tcp
  | udp
  deriving DecidableEq

/-- The name of a transport protocol in requests. -/
def Transport.name : Transport → String
  | .tcp => "TCP"
  | .udp => "UDP"

/-- A port to open. -/
structure PortSpec where
  /-- The port number, from 1 to 65535. -/
  port : Nat
  /-- The transport protocol. -/
  transport : Transport
  deriving DecidableEq

namespace PortSpec

/-- A port number, which may carry a plus sign and leading zeros. -/
def portNumber? (cs : List Char) : Option Nat :=
  let ds := match cs with
    | '+' :: rest => rest
    | cs => cs
  match Text.decimal? ds with
  | some n => if 0 < n ∧ n < 65536 then some n else none
  | none => none

/-- The transport protocol of an entry; without one it is TCP. Letter case is ignored. -/
def transportOf? (name : Option (List Char)) : Except (List Char) Transport :=
  match name with
  | none => .ok .tcp
  | some cs =>
    let lowered := (Text.trimChars cs).map Char.toLower
    if lowered = ['t', 'c', 'p'] then .ok .tcp
    else if lowered = ['u', 'd', 'p'] then .ok .udp
    else .error lowered

/-- One entry, a port number with or without a slash and a protocol. -/
def ofEntry (entry : List Char) : Except InputError PortSpec :=
  let parts := Text.splitOnce '/' entry
  -- An entry is trimmed already, so only a slash can leave white space at the number's end.
  let number := if parts.2.isSome then Text.trimChars parts.1 else parts.1
  match portNumber? number with
  | none => .error (.portInvalid (String.ofList entry))
  | some port =>
    match transportOf? parts.2 with
    | .ok transport => .ok { port, transport }
    | .error found => .error (.transportInvalid (String.ofList entry) (String.ofList found))

/-- The entries of a list separated by commas, blank ones left out. -/
def entries (input : String) : List (List Char) :=
  ((Text.splitOn ',' input.toList).map Text.trimChars).filter fun entry => !entry.isEmpty

/-- Reads entries in order and refuses one that repeats a port already seen. -/
def readEntries (seen : List PortSpec) : List (List Char) → Except InputError (List PortSpec)
  | [] => .ok []
  | entry :: rest => do
    let spec ← ofEntry entry
    if spec ∈ seen then .error (.portRepeated (String.ofList entry))
    else return spec :: (← readEntries (spec :: seen) rest)

/-- The ports that an operator listed. -/
def parse (input : String) : Except InputError (List PortSpec) :=
  let found := entries input
  if found.isEmpty then .error .portsMissing
  else if maxPorts < found.length then .error .tooManyPorts
  else readEntries [] found

end PortSpec

end StackPanel

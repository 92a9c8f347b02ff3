import StackPanel.Service.Exchange
import StackPanel.Text.Digits
import StackPanel.Text.Pieces

/-! Sending requests over a connection: what can be sent, and what is read back. -/

namespace StackPanel

/-- The reply for a request that got no response. -/
def Reply.unsent (url detail : String) : Reply :=
  .failure ("request to " ++ url ++ " failed: " ++ detail)

/-- The reply for a response that broke off. -/
def Reply.unread (url detail : String) : Reply :=
  .failure ("reading response from " ++ url ++ " failed: " ++ detail)

namespace Wire

/-- Characters that a header may carry: all but control characters other than a tab. -/
def isHeaderChar (c : Char) : Bool :=
  c = '\t' || (0x20 ≤ c.toNat && c.toNat ≠ 0x7F)

/-- Whether every header of a request can be sent. -/
def hasPlainHeaders (request : Request) : Bool :=
  request.headers.all fun header => header.2.toList.all isHeaderChar

/-- Whether a response with a status has no body, whatever it announces. -/
def hasNoBody (status : Nat) : Bool :=
  status = 204 || status = 304

/-- Text without a byte order mark at the front. -/
def dropMark (text : String) : String :=
  match text.toList with
  | c :: rest => if c.toNat = 0xFEFF then String.ofList rest else text
  | [] => text

/-- The reply that a whole response makes. -/
def reply (status : Nat) (text : String) : Reply :=
  .answer status (if hasNoBody status then "" else dropMark text)

/-- Characters that an address writes as bytes in hexadecimal. -/
def isEscaped (c : Char) : Bool :=
  c.toNat ≤ 0x20 || 0x7F ≤ c.toNat || c = '"' || c = '<' || c = '>' || c = '\x60' || c = '\x7b' ||
    c = '\x7d'

/-- A byte in hexadecimal, as an address writes it. -/
def escapeByte (b : UInt8) : List Char :=
  ['%', (Nat.digitChar (b.toNat / 16)).toUpper, (Nat.digitChar (b.toNat % 16)).toUpper]

/-- A path and a query as they are sent: with a slash in front, without a fragment, and with
characters escaped that an address cannot hold. -/
def pathOf (cs : List Char) : String :=
  let kept := cs.takeWhile (· ≠ '#')
  let path := match kept with
    | '/' :: _ => kept
    | _ => '/' :: kept
  String.ofList (path.flatMap fun c =>
    if isEscaped c then (String.utf8EncodeChar c).flatMap escapeByte else [c])

/-- Where a request goes. -/
structure Target where
  /-- The host. -/
  host : String
  /-- The port. -/
  port : Nat
  /-- The path with the query after it. -/
  path : String
  deriving DecidableEq

/-- The number of a port; without one it is eighty. -/
def port? : Option (List Char) → Option Nat
  | none | some [] => some 80
  | some ds => (Text.decimal? ds).filter (· < 65536)

/-- The target of an address that starts with `http://` and names a host. -/
def Target.ofUrl? (url : String) : Option Target :=
  match url.toList with
  | 'h' :: 't' :: 't' :: 'p' :: ':' :: '/' :: '/' :: rest =>
    let isEnd (c : Char) : Bool := c = '/' || c = '?' || c = '#'
    let (host, port) := Text.splitOnce ':' (rest.takeWhile (!isEnd ·))
    if host.isEmpty then none
    else (port? port).map fun port =>
      { host := String.ofList host, port, path := pathOf (rest.dropWhile (!isEnd ·)) }
  | _ => none

end Wire

end StackPanel

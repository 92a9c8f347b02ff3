import StackPanel.Service.Wire
import StackPanel.Text.Decode

/-! Requests and responses as the bytes that cross a connection. -/

namespace StackPanel.Wire

/-- A line at the head of a message. -/
def headLine (name value : String) : String :=
  name ++ ": " ++ value ++ "\r\n"

/-- A request as it is sent: what is asked for, the headers, an empty line and the body.
The service is asked to close the connection after its response. -/
def requestText (target : Target) (request : Request) : String :=
  let headers := [("Host", target.host ++ ":" ++ toString target.port), ("Accept", "*/*"),
    ("Connection", "close")] ++ request.headers
  let size := request.body.toList.map fun body => ("Content-Length", toString body.utf8ByteSize)
  request.method.name ++ " " ++ target.path ++ " HTTP/1.1\r\n" ++
    String.join ((headers ++ size).map fun header => headLine header.1 header.2) ++ "\r\n" ++
    request.body.getD ""

/-- Bytes up to the first empty line, and those after it. -/
def splitHead? : List UInt8 → Option (List UInt8 × List UInt8)
  | 13 :: 10 :: 13 :: 10 :: rest => some ([], rest)
  | b :: rest => (splitHead? rest).map fun parts => (b :: parts.1, parts.2)
  | [] => none

/-- The head of a response. -/
structure Head where
  /-- The status. -/
  status : Nat
  /-- Headers with their names in lower case. -/
  headers : List (List Char × List Char)

/-- A header line as its name in lower case and its trimmed value. -/
def header (line : String) : List Char × List Char :=
  let (name, value) := Text.splitOnce ':' line.toList
  (name.map Char.toLower, Text.trimChars (value.getD []))

/-- The status in the first line of a response: three digits after the version. -/
def status? (line : String) : Option Nat :=
  match Text.splitOnce ' ' line.toList with
  | ('H' :: 'T' :: 'T' :: 'P' :: '/' :: _, some rest) => Text.decimal? (rest.take 3)
  | _ => none

/-- Reads the head of a response. -/
def Head.ofBytes? (bytes : List UInt8) : Option Head :=
  match Text.lines (Text.decode ⟨bytes.toArray⟩) with
  | first :: rest => (status? first).map fun status => { status, headers := rest.map header }
  | [] => none

/-- The data of chunks, each after its size in hexadecimal, up to the empty chunk; none if they
break off. The fuel bounds the chunks. -/
def readChunks? : Nat → List UInt8 → Option (List UInt8)
  | 0, _ => none
  | fuel + 1, bytes => do
    let line := bytes.takeWhile (· ≠ 13)
    -- What follows a semicolon or a space is not part of the size.
    let digits := line.takeWhile fun b => b ≠ 59 && b ≠ 32
    let size ← Text.hex? (digits.map fun b => Char.ofNat b.toNat)
    let rest := bytes.drop (line.length + 2)
    if digits.isEmpty then none
    else if size = 0 then some []
    else if rest.length < size + 2 then none
    else (readChunks? fuel (rest.drop (size + 2))).map (rest.take size ++ ·)

/-- The body after a head, whose end is told by chunks, by a length, or by the end of the
connection; none if it breaks off. -/
def body? (head : Head) (bytes : List UInt8) : Option (List UInt8) :=
  if hasNoBody head.status then some []
  else if head.headers.lookup "transfer-encoding".toList = some "chunked".toList then
    readChunks? (bytes.length + 1) bytes
  else match head.headers.lookup "content-length".toList with
    -- With neither chunks nor a length the body lasts as long as the connection.
    | none => some bytes
    | some digits =>
      (Text.decimal? digits).bind fun size =>
        if bytes.length < size then none else some (bytes.take size)

/-- The reply that the bytes of a whole connection make. -/
def replyOfBytes (url : String) (bytes : ByteArray) : Reply :=
  match splitHead? bytes.toList with
  | none => .unsent url "connection closed before message completed"
  | some (head, rest) =>
    match Head.ofBytes? head with
    | none => .unsent url "invalid HTTP version parsed"
    | some head =>
      match body? head rest with
      | none => .unread url "error decoding response body"
      | some body => reply head.status (Text.decode ⟨body.toArray⟩)

end StackPanel.Wire

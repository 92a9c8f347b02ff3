import StackPanel.Text.Blank

/-! Where requests go and with which key. -/

namespace StackPanel

/-- Everything a request needs besides the call itself. -/
structure Connection where
  /-- The address that paths are joined to. -/
  baseUrl : String
  /-- The key to send, if one is to be sent. -/
  apiKey : Option String
  deriving DecidableEq

namespace Connection

/-- A base address: the trimmed one if it is not blank, otherwise the origin, and in either case
without slashes at the end. -/
def resolveBaseUrl (typed origin : String) : String :=
  let chosen := if Text.blank typed then Text.trimChars origin.toList
    else Text.trimChars typed.toList
  String.ofList (Text.dropEndWhile (· = '/') chosen)

/-- Base and path with exactly one slash between them. -/
def joinUrl (base path : String) : String :=
  String.ofList (Text.dropEndWhile (· = '/') base.toList ++
    '/' :: path.toList.dropWhile (· = '/'))

/-- The connection for the current settings; a blank key is never sent. -/
def ofSettings (typedUrl origin apiKey : String) (sendsKey : Bool) : Connection :=
  { baseUrl := resolveBaseUrl typedUrl origin
    apiKey := if sendsKey && !Text.blank apiKey then some (Text.trim apiKey) else none }

end Connection

end StackPanel

import StackPanel.Json.Printer
import StackPanel.Json.Reader
import StackPanel.Panel.Tab
import StackPanel.Reading

/-! Choices that outlive the panel, kept in a file as far as that works. -/

namespace StackPanel

/-- A result that may first need a text on disk: the text to write, and the result for whether the
write worked. -/
structure Saving (α : Type) where
  /-- The text to write, if there is one. -/
  text : Option String
  /-- The result, given whether the write worked. -/
  result : Bool → α

namespace Saving

variable {α β : Type}

/-- A result that needs nothing written. -/
def of (result : α) : Saving α :=
  { text := none, result := fun _ => result }

/-- Changes the result. -/
def map (change : α → β) (saving : Saving α) : Saving β :=
  { text := saving.text, result := fun written => change (saving.result written) }

end Saving

/-- The choices that are kept. -/
inductive PreferenceKey where
  | apiKey
  | sendsApiKey
  | activeTab
  deriving DecidableEq

/-- The name of a choice in the file. -/
def PreferenceKey.name : PreferenceKey → String
  | .apiKey => "api_key"
  | .sendsApiKey => "api_key_enabled"
  | .activeTab => "active_tab"

/-- The kept choices, and whether they still reach the disk. -/
structure Preferences where
  /-- Whether changes are written to the file. -/
  isAvailable : Bool
  /-- All entries, those under unknown names included. -/
  values : List (String × String)
  deriving DecidableEq

namespace Preferences

/-- Choices that live only as long as the panel. -/
def unavailable : Preferences :=
  { isAvailable := false, values := [] }

/-- A field whose value is text. -/
def textField? (field : String × Json) : Option (String × String) :=
  field.2.text?.map fun value => (field.1, value)

/-- The entries of a file; content that is no object of texts counts as empty. -/
def ofText (text : String) : List (String × String) :=
  -- A single value that is no text makes the whole file count as empty.
  Entries.ofPairs (((Json.parseFields? text).bind (·.mapM textField?)).getD [])

/-- Opens the file with what was found in it. Its directory must exist or be made, and the file
must be missing or readable. -/
def load (directoryReady : Bool) (found : Reading) : Preferences :=
  if !directoryReady then unavailable
  else match found with
    | .missing => { isAvailable := true, values := [] }
    -- Bytes that are no text were read all the same, and the next change overwrites them.
    | .garbled => { isAvailable := true, values := [] }
    | .unreadable => unavailable
    | .content text => { isAvailable := true, values := ofText text }

/-- The entries as the text of a file. -/
def textOf (values : List (String × String)) : String :=
  (Json.object (values.map fun entry => (entry.1, Json.text entry.2))).indented

/-- The value of a choice. -/
def get? (preferences : Preferences) (key : PreferenceKey) : Option String :=
  Entries.find? key.name preferences.values

/-- The truth value of a choice. -/
def getBool? (preferences : Preferences) (key : PreferenceKey) : Option Bool :=
  match preferences.get? key with
  | some "true" => some true
  | some "false" => some false
  | _ => none

/-- Makes a choice and writes all of them. A write that fails is the last one tried; the choice
counts all the same. -/
def set (preferences : Preferences) (key : PreferenceKey) (value : String) : Saving Preferences :=
  let values := Entries.insert key.name value preferences.values
  if preferences.isAvailable then
    { text := some (textOf values)
      result := fun written => { isAvailable := written, values } }
  else .of { isAvailable := false, values }

/-- Makes a choice between true and false. -/
def setBool (preferences : Preferences) (key : PreferenceKey) (value : Bool) : Saving Preferences :=
  preferences.set key (if value then "true" else "false")

/-- The tab saved last, or a fallback if there is none by that name. -/
def restoredTab (preferences : Preferences) (fallback : Tab) : Tab :=
  ((preferences.get? .activeTab).bind Tab.ofId?).getD fallback

end Preferences

end StackPanel

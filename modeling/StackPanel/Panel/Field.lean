import StackPanel.Panel.Tab

/-! The fields an operator can fill in. -/

namespace StackPanel

/-- A form field. -/
inductive Field where
  | baseUrl
  | apiKey
  | targetPort
  | podSpec
  | stackId
  deriving DecidableEq

namespace Field

/-- The label in front of a field. -/
def label : Field → String
  | .baseUrl => "base url"
  | .apiKey => "api key"
  | .targetPort => "target port"
  | .podSpec => "pod spec"
  | .stackId => "stack id"

/-- Whether a field holds several lines. -/
def isMultiline (field : Field) : Bool :=
  field = .podSpec

/-- A field's text as it is shown: the key only as its number of characters. -/
def shown (field : Field) (text : List Char) : List Char :=
  match field with
  | .apiKey => List.replicate text.length '•'
  | _ => text

end Field

/-- The fields of a tab that can take the focus, from top to bottom. -/
def Tab.fields : Tab → List Field
  | .settings => [.baseUrl, .apiKey]
  | .create => [.targetPort, .podSpec]
  | .inspect => [.stackId]
  | .stackList | .service => []

/-- The contents of all fields. -/
structure Inputs where
  /-- The address typed over the configured one. -/
  baseUrl : String
  /-- The key. -/
  apiKey : String
  /-- Whether the key is sent. -/
  sendsApiKey : Bool
  /-- The stack that single-stack actions are about. -/
  stackId : String
  /-- The stack created last. -/
  lastStackId : String
  /-- The ports of the next stack. -/
  targetPort : String
  /-- The pod description of the next stack. -/
  podSpec : String
  deriving DecidableEq

namespace Inputs

/-- The text of a field. -/
def get (inputs : Inputs) : Field → String
  | .baseUrl => inputs.baseUrl
  | .apiKey => inputs.apiKey
  | .targetPort => inputs.targetPort
  | .podSpec => inputs.podSpec
  | .stackId => inputs.stackId

/-- Replaces the text of a field. -/
def set (inputs : Inputs) (field : Field) (text : String) : Inputs :=
  match field with
  | .baseUrl => { inputs with baseUrl := text }
  | .apiKey => { inputs with apiKey := text }
  | .targetPort => { inputs with targetPort := text }
  | .podSpec => { inputs with podSpec := text }
  | .stackId => { inputs with stackId := text }

end Inputs

end StackPanel

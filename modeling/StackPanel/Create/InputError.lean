import StackPanel.Text.Quoted

/-! Why something an operator typed is not accepted. -/

namespace StackPanel

/-- A reason to refuse an input before any request is made. -/
inductive InputError where
  | stackIdMissing
  | stackIdInvalid (id : String)
  | portsMissing
  | tooManyPorts
  | portInvalid (entry : String)
  | transportInvalid (entry found : String)
  | portRepeated (entry : String)
  | podSpecMissing
  | singlePortNeeded
  deriving DecidableEq

/-- The most ports one stack may ask for. -/
def maxPorts : Nat := 24

/-- The wording of a refusal. -/
def InputError.message : InputError → String
  | .stackIdMissing => "stack_id is required"
  | .stackIdInvalid id =>
    "invalid stack_id " ++ Text.quoted id ++ ": use letters, digits, '-', '_', '.' or '~'"
  | .portsMissing => "target_port is required"
  | .tooManyPorts => "target_port exceeds limit (max " ++ toString maxPorts ++ ")"
  | .portInvalid entry => "invalid target_port " ++ Text.quoted entry ++ ": port must be 1-65535"
  | .transportInvalid entry found =>
    "invalid target_port " ++ Text.quoted entry ++ ": protocol " ++ Text.quoted found ++
      " must be tcp or udp"
  | .portRepeated entry => "duplicate target_port entry " ++ Text.quoted entry
  | .podSpecMissing => "pod_spec is required"
  | .singlePortNeeded => "integer target_port encoding accepts exactly one TCP port"

end StackPanel

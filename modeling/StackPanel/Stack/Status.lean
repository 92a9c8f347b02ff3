import StackPanel.Text.Blank

/-! The states that a stack reports, as far as the panel tells them apart. -/

namespace StackPanel

/-- What a stack's status means to the panel. -/
inductive StatusClass where
  | creating
  | running
  | stopped
  | failed
  | nodeDeleted
  | unknown
  deriving DecidableEq

namespace StatusClass

/-- The name of a class. -/
def name : StatusClass → String
  | .creating => "creating"
  | .running => "running"
  | .stopped => "stopped"
  | .failed => "failed"
  | .nodeDeleted => "node_deleted"
  | .unknown => "unknown"

/-- The class of a status text; one that is absent or not known is unknown. -/
def of (status : Option String) : StatusClass :=
  match (status.map Text.trim).getD "" with
  | "creating" => .creating
  | "running" => .running
  | "stopped" => .stopped
  | "failed" => .failed
  | "node_deleted" => .nodeDeleted
  | _ => .unknown

end StatusClass

end StackPanel

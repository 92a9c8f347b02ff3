import StackPanel.Create.PortSpec
import StackPanel.Json.Value

/-! The request for a new stack. -/

namespace StackPanel

/-- How the service wants the ports of a new stack written. -/
inductive PortEncoding where
  | list
  | integer
  deriving DecidableEq

/-- The name of an encoding in settings. -/
def PortEncoding.name : PortEncoding → String
  | .list => "list"
  | .integer => "integer"

/-- The encoding of a name. -/
def PortEncoding.ofName? (name : String) : Option PortEncoding :=
  if name = "list" then some .list
  else if name = "integer" then some .integer
  else none

/-- The ports of a new stack in the shape they are sent. -/
inductive TargetPort where
  | single (port : Nat)
  | list (specs : List PortSpec)
  deriving DecidableEq

/-- What is asked of the service for a new stack. -/
structure CreateRequest where
  /-- The ports to open. -/
  targetPort : TargetPort
  /-- The pod's description, exactly as typed. -/
  podSpec : String
  deriving DecidableEq

namespace CreateRequest

/-- The request for an operator's inputs, or the first reason to refuse them. -/
def build (ports podSpec : String) (encoding : PortEncoding) : Except InputError CreateRequest := do
  -- The ports are read first, so their mistakes win over a missing description.
  let specs ← PortSpec.parse ports
  if Text.blank podSpec then .error .podSpecMissing
  else match encoding with
    | .list => .ok { targetPort := .list specs, podSpec }
    | .integer =>
      match specs with
      | [{ port, transport := .tcp }] => .ok { targetPort := .single port, podSpec }
      | _ => .error .singlePortNeeded

/-- One port as JSON. -/
def portJson (spec : PortSpec) : Json :=
  .object [("container_port", .integer spec.port), ("protocol", .text spec.transport.name)]

/-- The ports as JSON. -/
def targetJson : TargetPort → Json
  | .single port => .integer port
  | .list specs => .array (specs.map portJson)

/-- The body that is sent. -/
def toJson (request : CreateRequest) : Json :=
  .object [("pod_spec", .text request.podSpec), ("target_port", targetJson request.targetPort)]

end CreateRequest

/-- The pod description that a new form starts with when none is configured. -/
def defaultPodSpec : String :=
  "apiVersion: v1
kind: Pod
metadata:
  name: challenge
spec:
  containers:
    - name: app
      image: nginx:stable
      ports:
        - containerPort: 80
          protocol: TCP
      resources:
        requests:
          cpu: \"100m\"
          memory: \"128Mi\"
        limits:
          cpu: \"100m\"
          memory: \"128Mi\""

end StackPanel

import StackPanel.Create.Request
import StackPanel.Proofs.Create.PortGrammar
import StackPanel.Proofs.Json.RoundTrip

/-! The request for a new stack: from which inputs it is built, and what its JSON stands for. -/

namespace StackPanel

namespace PortSpec

/-- The port that an item of a request stands for: a number and the name of a protocol. -/
def ofJson? (item : Json) : Option PortSpec :=
  match item.field? "container_port", (item.field? "protocol").bind Json.text? with
  | some (.integer port), some "TCP" => some { port := port.toNat, transport := .tcp }
  | some (.integer port), some "UDP" => some { port := port.toNat, transport := .udp }
  | _, _ => none

/-- The ports that the target of a request stands for: a number is that of one TCP port. -/
def targetOfJson? : Json → Option (List PortSpec)
  | .integer port => some [{ port := port.toNat, transport := .tcp }]
  | .array items => items.mapM ofJson?
  | _ => none

/-- A port stands for itself in a request. -/
theorem ofJson?_portJson (spec : PortSpec) :
    ofJson? (CreateRequest.portJson spec) = some spec := by
  obtain ⟨port, transport⟩ := spec
  -- Either protocol is known by its name.
  cases transport <;>
    simp [ofJson?, CreateRequest.portJson, Json.field?, Entries.find?, Json.text?, Transport.name]

/-- A list of ports stands for itself in a request. -/
theorem targetOfJson?_list (specs : List PortSpec) :
    targetOfJson? (.array (specs.map CreateRequest.portJson)) = some specs := by
  -- Its items stand for their ports, one after another.
  simp only [targetOfJson?]
  induction specs with
  | nil => rfl
  | cons spec specs ih => simp [ofJson?_portJson, ih]

end PortSpec

namespace CreateRequest

/-- Whether a creation is refused: the ports do not list any that can be opened, the description is
blank, or a number is wanted and the ports are anything but a single one for TCP. -/
def Refuses (ports podSpec : String) (encoding : PortEncoding) : Prop :=
  (∃ error, PortSpec.parse ports = .error error) ∨ Text.blank podSpec = true ∨
    encoding = .integer ∧ ∀ port, PortSpec.parse ports ≠ .ok [{ port, transport := .tcp }]

/-- The target that ports have in a request: all of them in order, or the number of the only one. -/
def Shapes (encoding : PortEncoding) (specs : List PortSpec) (target : Json) : Prop :=
  match encoding with
  | .list =>
    target = .array (specs.map fun spec =>
      .object [("container_port", .integer spec.port), ("protocol", .text spec.transport.name)])
  | .integer => ∃ port : Nat, specs = [{ port, transport := .tcp }] ∧ target = .integer port

variable {ports podSpec : String} {encoding : PortEncoding} {specs : List PortSpec}

/-- Ports that are no list end the building. -/
theorem build_of_error {error : InputError} (failed : PortSpec.parse ports = .error error) :
    build ports podSpec encoding = .error error := by
  -- The ports are read first, so nothing else is looked at.
  simp [build, failed, Bind.bind, Except.bind]

/-- A blank description ends the building once the ports are read. -/
theorem build_of_blank (read : PortSpec.parse ports = .ok specs)
    (blank : Text.blank podSpec = true) :
    build ports podSpec encoding = .error .podSpecMissing := by
  simp [build, read, blank, Bind.bind, Except.bind]

/-- A list of ports is taken as it is. -/
theorem build_list (read : PortSpec.parse ports = .ok specs) (filled : Text.blank podSpec = false) :
    build ports podSpec .list = .ok { targetPort := .list specs, podSpec } := by
  simp [build, read, filled, Bind.bind, Except.bind]

/-- A single port for TCP is taken as its number. -/
theorem build_single {port : Nat} (read : PortSpec.parse ports = .ok [{ port, transport := .tcp }])
    (filled : Text.blank podSpec = false) :
    build ports podSpec .integer = .ok { targetPort := .single port, podSpec } := by
  simp [build, read, filled, Bind.bind, Except.bind]

/-- No other ports are taken as a number. -/
theorem build_notSingle (read : PortSpec.parse ports = .ok specs)
    (filled : Text.blank podSpec = false) (other : ∀ port, specs ≠ [{ port, transport := .tcp }]) :
    build ports podSpec .integer = .error .singlePortNeeded := by
  simp [build, read, filled, Bind.bind, Except.bind]

/-- Nothing is built from inputs that are refused. -/
theorem build_refused (refused : Refuses ports podSpec encoding) :
    ∃ error, build ports podSpec encoding = .error error := by
  -- The reasons are looked for in a fixed order, and the first that is found is the error.
  cases read : PortSpec.parse ports with
  | error error => exact ⟨error, build_of_error read⟩
  | ok specs =>
    cases blank : Text.blank podSpec with
    | true => exact ⟨.podSpecMissing, build_of_blank read blank⟩
    | false =>
      -- Of the three reasons only the last is left, the ports being read and the description
      -- filled.
      rcases refused with ⟨error, failed⟩ | again | ⟨rfl, other⟩
      · simp [read] at failed
      · simp [blank] at again
      · have notSingle : ∀ port, specs ≠ [{ port, transport := .tcp }] := by
          rintro port rfl
          exact other port read
        exact ⟨.singlePortNeeded, build_notSingle read blank notSingle⟩

/-- A request is built from all other inputs, and its ports have the shape that is wanted. -/
theorem build_accepted (accepted : ¬Refuses ports podSpec encoding) :
    ∃ specs target, PortSpec.parse ports = .ok specs ∧
      build ports podSpec encoding = .ok { targetPort := target, podSpec } ∧
      Shapes encoding specs (targetJson target) := by
  unfold Refuses at accepted
  obtain ⟨listed, notBlank, wanted⟩ := by simpa only [not_or] using accepted
  have filled : Text.blank podSpec = false := Bool.eq_false_iff.mpr notBlank
  cases read : PortSpec.parse ports with
  | error error => exact absurd ⟨error, read⟩ listed
  | ok specs =>
    cases encoding with
    -- A list takes ports of any number and of both protocols.
    | list => exact ⟨specs, .list specs, rfl, build_list read filled, rfl⟩
    | integer =>
      -- A list of another shape would have been refused.
      have single : ∃ port, specs = [{ port, transport := .tcp }] := by
        by_contra other
        refine wanted ⟨rfl, fun port same => other ⟨port, ?_⟩⟩
        simpa [read] using same
      obtain ⟨port, rfl⟩ := single
      exact ⟨_, .single port, rfl, build_single read filled, port, rfl, rfl⟩

variable {target : Json}

/-- Ports that can be opened have a target that can be read back. -/
theorem Shapes.readable (shapes : Shapes encoding specs target)
    (range : ∀ spec ∈ specs, spec.InRange) : Json.Readable 126 target := by
  -- Port numbers are far below the bound of whole numbers.
  have inWord : ∀ spec ∈ specs, Json.InWord spec.port := by
    intro spec member
    have small := (range spec member).2
    unfold Json.InWord
    simp only [Nat.pow_eq]
    omega
  cases encoding with
  | list =>
    subst shapes
    -- An array of objects opens two containers, and the request leaves room for far more.
    refine .array ?_
    intro item member
    obtain ⟨spec, opened, rfl⟩ := List.mem_map.mp member
    have order : "container_port" < "protocol" := by decide
    refine .object (List.pairwise_pair.mpr order) ?_
    intro field inside
    -- An item has two fields, a number and a name.
    simp only [List.mem_cons, List.not_mem_nil, or_false] at inside
    rcases inside with rfl | rfl
    · exact .integer (inWord spec opened)
    · exact .text _
  | integer =>
    -- A single number opens no container.
    obtain ⟨port, rfl, rfl⟩ := shapes
    exact .integer (inWord _ List.mem_cons_self)

/-- The target of a request stands for exactly the ports that it was made from. -/
theorem Shapes.targetOfJson?_eq (shapes : Shapes encoding specs target) :
    PortSpec.targetOfJson? target = some specs := by
  cases encoding with
  | list =>
    -- Each item is taken apart into its port.
    subst shapes
    exact PortSpec.targetOfJson?_list specs
  | integer =>
    obtain ⟨port, rfl, rfl⟩ := shapes
    simp [PortSpec.targetOfJson?]

/-- The body of a request is the text of its two fields. -/
theorem parse?_compact (request : CreateRequest) (shapes : Shapes encoding specs
      (targetJson request.targetPort)) (range : ∀ spec ∈ specs, spec.InRange) :
    Json.parse? request.toJson.compact =
      some (.object [("pod_spec", .text request.podSpec),
        ("target_port", targetJson request.targetPort)]) := by
  -- The fields stand in the order of their names, as in every object that is printed.
  have order : "pod_spec" < "target_port" := by decide
  refine Json.Readable.parse?_compact (.object (List.pairwise_pair.mpr order) ?_)
  intro field inside
  -- The description can be any text, and the ports have one of the two shapes.
  simp only [List.mem_cons, List.not_mem_nil, or_false] at inside
  rcases inside with rfl | rfl
  · exact .text _
  · exact shapes.readable range

end CreateRequest

end StackPanel

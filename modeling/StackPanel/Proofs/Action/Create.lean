import StackPanel.Proofs.Action.RemoveItem
import StackPanel.Proofs.Create.Request

/-! Creating a stack is one request that carries the inputs unchanged, or none at all. -/

namespace StackPanel

namespace Panel

/-- Whether a panel refuses to create a stack from its inputs. -/
def RefusesCreation (panel : Panel) : Prop :=
  CreateRequest.Refuses panel.inputs.targetPort panel.inputs.podSpec panel.encoding

/-- The request that creates a stack. -/
def creationRequest (panel : Panel) (body : String) : Request :=
  { method := .post
    url := panel.connection.baseUrl ++ "/stacks"
    headers := panel.keyHeaders ++ [("Content-Type", "application/json")]
    body := some body }

/-- The call that creates a stack becomes the request that does. -/
theorem request_post (panel : Panel) (body : Json) :
    (Call.post "/stacks" body).request panel.connection = panel.creationRequest body.compact := by
  -- The path of the list starts with one slash, and the body brings a header of its own.
  simp [Call.request, Call.post, Call.headers, creationRequest, keyHeaders, joinUrl_stacks]

end Panel

/-- Inputs from which nothing is built lead to no request. -/
theorem ActionCalls.create_refused (context : ActionContext) {error : InputError}
    (refused : CreateRequest.build context.targetPort context.podSpec context.encoding =
      .error error) :
    create context = .done (.refused error) := by
  simp [create, refused]

/-- A request that was built is sent, and nothing after it. -/
theorem ActionCalls.create_accepted {panel : Panel} {target : Option String}
    {request : CreateRequest}
    (built : CreateRequest.build panel.inputs.targetPort panel.inputs.podSpec panel.encoding =
      .ok request) :
    create (panel.context target) =
      .send (panel.creationRequest request.toJson.compact) fun reply =>
        .done (.created (Call.outcome (panel.creationRequest request.toJson.compact) reply)) := by
  -- The request that is stated is that of the call, which the action makes and nothing else.
  rw [← panel.request_post]
  simp only [create, Panel.context, built]
  rfl

/-- Creating a stack on an idle panel sends nothing exactly if the inputs are refused, which is then
what the console records. Otherwise it sends one request, whose body is an object of two fields: the
description exactly as it is in the form, and a target that stands for exactly the ports that are
listed there. -/
theorem create_sends_inputs {σ : Type} {panel : Panel} (idle : panel.isBusy = false) (now : Instant)
    (target : Option String) (answer : σ → Request → Reply × σ) (state : σ) :
    let run := Dispatcher.standard.runAction panel now { id := .createStack, target } answer state
    (panel.RefusesCreation →
      run.sent = [] ∧ ∃ message, run.panel =
        { panel with console := .failure now ActionId.createStack.title (.validation message) }) ∧
    (¬panel.RefusesCreation →
      ∃ specs body ports, PortSpec.parse panel.inputs.targetPort = .ok specs ∧
        run.sent = [panel.creationRequest body] ∧
        Json.parse? body =
          some (.object [("pod_spec", .text panel.inputs.podSpec), ("target_port", ports)]) ∧
        CreateRequest.Shapes panel.encoding specs ports ∧
        PortSpec.targetOfJson? ports = some specs) := by
  intro run
  -- The action is the one of the table, and an idle panel carries it out in one go.
  have handled : Dispatcher.standard.handler? ActionId.createStack =
      some (.remote ActionCalls.create) := rfl
  have carried := Dispatcher.runAction_idle idle { id := .createStack, target } handled now
    answer state
  constructor
  · -- The action ends at once, with the first reason that was found.
    intro refused
    obtain ⟨error, failed⟩ := CreateRequest.build_refused refused
    rw [ActionCalls.create_refused (panel.context target) failed] at carried
    refine ⟨by simp only [run, carried, Exchange.run], error.message, ?_⟩
    simp only [run, carried, Panel.complete_begin _ _ idle]
    rfl
  · intro accepted
    -- Inputs that are not refused build a request, which has the shape of the encoding.
    obtain ⟨specs, wire, read, built, shapes⟩ := CreateRequest.build_accepted accepted
    let request : CreateRequest := { targetPort := wire, podSpec := panel.inputs.podSpec }
    refine ⟨specs, request.toJson.compact, _, read, ?_, ?_, shapes, shapes.targetOfJson?_eq⟩
    · -- The only request is the one that was built.
      rw [ActionCalls.create_accepted built] at carried
      simp only [run, carried, Exchange.run, request]
    · -- The ports that were read can be opened, and so their numbers can be read back.
      have range := PortSpec.inRange_of_spelled (PortSpec.parse_eq_ok_iff.mp read).spelled
      exact request.parse?_compact shapes range

/-- A panel whose form holds a signed port and one for UDP, and a description with spaces at its
ends, quotes, a backslash, a line break, a control character and characters beyond ASCII. -/
def craftedForm (encoding : PortEncoding) : Panel :=
  let start := Panel.start .initial .unavailable
  { start with
    inputs := {
      start.inputs with targetPort := "+0080, 53/udp", podSpec := " \"a\\b\"\n\x01\u00e9\u2028 " }
    encoding }

/-- Both ports and the whole description are sent as a list, and nothing is sent as a number. -/
theorem craftedForm_sends_inputs :
    (∃ body,
      (Dispatcher.standard.runAction (craftedForm .list) (.ofUnixMilliseconds 0)
        { id := .createStack } Exchange.scripted []).sent =
          [(craftedForm .list).creationRequest body] ∧
      Json.parse? body = some (.object [
        ("pod_spec", .text " \"a\\b\"\n\x01\u00e9\u2028 "),
        ("target_port", .array [
          .object [("container_port", .integer 80), ("protocol", .text "TCP")],
          .object [("container_port", .integer 53), ("protocol", .text "UDP")]])])) ∧
      (Dispatcher.standard.runAction (craftedForm .integer) (.ofUnixMilliseconds 0)
        { id := .createStack } Exchange.scripted []).sent = [] := by
  -- The ports are read once, with and without a sign or a protocol.
  have read : PortSpec.parse "+0080, 53/udp" = .ok [⟨80, .tcp⟩, ⟨53, .udp⟩] := by
    decide +kernel
  have idle : ∀ encoding, (craftedForm encoding).isBusy = false := fun encoding => rfl
  have asList := create_sends_inputs (idle .list) (.ofUnixMilliseconds 0) none
    Exchange.scripted []
  have asNumber := create_sends_inputs (idle .integer) (.ofUnixMilliseconds 0) none
    Exchange.scripted []
  constructor
  · have accepted : ¬(craftedForm .list).RefusesCreation := by
      -- No reason to refuse applies: the ports are read, the text is filled, and a list takes both.
      rintro (⟨error, failed⟩ | blank | ⟨number, -⟩)
      · exact absurd (read.symm.trans failed) (by simp)
      · exact absurd blank (by decide +kernel)
      · contradiction
    obtain ⟨specs, body, ports, listed, sent, parsed, shapes, -⟩ := asList.2 accepted
    -- What was built from the ports that were read is the list of both.
    obtain rfl : [⟨80, .tcp⟩, ⟨53, .udp⟩] = specs := by
      simpa using read.symm.trans listed
    subst shapes
    exact ⟨body, sent, parsed⟩
  · -- Two ports cannot be sent as one number.
    have refused : (craftedForm .integer).RefusesCreation := by
      refine .inr (.inr ⟨rfl, fun port single => ?_⟩)
      exact absurd (read.symm.trans single) (by simp)
    exact (asNumber.1 refused).1

end StackPanel

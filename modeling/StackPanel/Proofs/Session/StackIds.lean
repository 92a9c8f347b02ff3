import StackPanel.Proofs.Action.Headers
import StackPanel.Proofs.Action.StackTarget
import StackPanel.Proofs.Session.Fields

/-! The two fields that hold stack ids in a session: where their texts come from, and which stack
the next action on a single stack is about. -/

namespace StackPanel

/-- Whether a reply gives a stack an id: it means success, and its text is a JSON object that holds
a string under `stack_id` of which something is left when it is trimmed. -/
def Reply.Gives (reply : Reply) (id : String) : Prop :=
  ∃ status text fields raw, reply = .answer status text ∧ 200 ≤ status ∧ status < 300 ∧
    Json.parse? text = some (.object fields) ∧
    Entries.find? "stack_id" fields = some (.text raw) ∧
    Text.blank raw = false ∧ Text.trim raw = id

/-- A value holds a string in a field exactly if it is an object with such a field. -/
theorem Json.textField_eq_some_iff {value : Json} {key raw : String} :
    (value.field? key).bind Json.text? = some raw ↔
      ∃ fields, value = .object fields ∧ Entries.find? key fields = some (.text raw) := by
  cases value with
  | object fields =>
    constructor
    · intro held
      obtain ⟨field, found, text⟩ := Option.bind_eq_some_iff.mp held
      refine ⟨fields, rfl, ?_⟩
      -- Of all values only a string has characters.
      cases field <;> simp [Json.text?] at text
      rw [← text]
      exact found
    · rintro ⟨_, same, found⟩
      obtain rfl := Json.object.inj same
      simp [field?, found, Json.text?]
  | null | bool | integer | real | text | array => simp [field?]

/-- A body holds an id exactly if its text is a JSON object with a string of that id. -/
theorem ResponseBody.stackId?_parse_eq_some_iff {text id : String} :
    (parse text).stackId? = some id ↔
      ∃ fields raw, Json.parse? text = some (.object fields) ∧
        Entries.find? "stack_id" fields = some (.text raw) ∧
        Text.blank raw = false ∧ Text.trim raw = id := by
  -- An id is a string in the field of which something is left when it is trimmed.
  have held : (parse text).stackId? = some id ↔
      ∃ raw, ((parse text).json?.bind (·.field? "stack_id")).bind Json.text? = some raw ∧
        Text.blank raw = false ∧ Text.trim raw = id := by
    unfold stackId?
    cases ((parse text).json?.bind (·.field? "stack_id")).bind Json.text? with
    | none => simp
    | some raw => cases blank : Text.blank raw <;> simp [blank]
  rw [held]
  unfold parse
  by_cases empty : text.isEmpty = true
  · -- An empty text is read as an object without fields, and is no JSON.
    have nothing : text = "" := String.isEmpty_iff.mp empty
    have unread : Json.parse? "" = none := Option.isNone_iff_eq_none.mp (by decide +kernel)
    simp [nothing, unread, json?, Json.field?, Entries.find?]
  · -- Any other text is read as JSON, and one that is none holds no field.
    rw [if_neg empty]
    cases Json.parse? text with
    | none => simp [json?]
    | some value =>
      simp only [json?, Option.bind_some, Json.textField_eq_some_iff, Option.some.injEq]
      constructor
      · -- Both sides ask for the same fields, once the value is known to be an object.
        rintro ⟨raw, ⟨fields, same, found⟩, left⟩
        exact ⟨fields, raw, same, found, left⟩
      · rintro ⟨fields, raw, same, found, left⟩
        exact ⟨raw, ⟨fields, same, found⟩, left⟩

/-- A request brought an id exactly if it was an order and its reply gives that id. -/
theorem createdId?_eq_some_iff {sent : Request × Reply} {id : String} :
    createdId? sent = some id ↔ sent.1.method = .post ∧ sent.2.Gives id := by
  obtain ⟨request, reply⟩ := sent
  unfold createdId? Reply.Gives
  -- The cases are the conditions in turn: an order, an answer at all, and a status of success.
  by_cases order : request.method = .post
  · cases reply with
    | failure message => simp [order, Reply.successText?]
    | answer status text =>
      by_cases success : 200 ≤ status ∧ status < 300
      · simp only [order, if_true, Reply.successText?, if_pos success, Option.bind_some,
          ResponseBody.stackId?_parse_eq_some_iff, true_and]
        constructor
        · -- The status is known by now, and what is left to find are the fields and the string.
          rintro ⟨fields, raw, given⟩
          exact ⟨status, text, fields, raw, rfl, success.1, success.2, given⟩
        · rintro ⟨_, _, fields, raw, same, -, -, given⟩
          obtain ⟨rfl, rfl⟩ := Reply.answer.inj same
          exact ⟨fields, raw, given⟩
      · simp only [order, if_true, Reply.successText?, if_neg success, Option.bind_none,
          reduceCtorEq, true_and, false_iff]
        -- A reply outside the successes cannot be the one that gives an id.
        rintro ⟨_, _, fields, raw, same, low, high, -⟩
        obtain ⟨rfl, rfl⟩ := Reply.answer.inj same
        exact success ⟨low, high⟩
  · -- No other method orders a stack.
    simp [order]

/-- An action on the typed stack that is launched on a free panel sends one request, which asks for
that stack if its id is a segment. -/
theorem Terminal.launch_onStack {terminal : Terminal} (free : terminal.panel.isBusy = false)
    (now : Instant) {trigger : ActionTrigger} {method : Method} {ending : String}
    (about : trigger.id.onStack? = some (method, ending)) (typed : trigger.id ≠ .deleteItem)
    (segment : StackId.IsSegment terminal.panel.inputs.stackId) :
    ∃ action, (terminal.launch .standard now trigger).started = some action ∧
      ∀ {σ : Type} (answer : σ → Request → Reply × σ) (state : σ),
        (action.exchange.run answer state).sent =
          [terminal.panel.stackRequest method terminal.panel.inputs.stackId ending] := by
  obtain ⟨action, started, keeps⟩ := Dispatcher.dispatch_onStack free now about
  -- Only a removal of an item is aimed at a card, any other action at the typed id.
  have text : terminal.panel.stackText trigger = terminal.panel.inputs.stackId := if_neg typed
  have trimmed : Text.trim (terminal.panel.stackText trigger) = terminal.panel.inputs.stackId := by
    rw [text]
    exact segment.trim_eq
  refine ⟨action, started, ?_⟩
  intro σ answer state
  -- Only the removal of an item would fetch the list as well.
  have sent := keeps.asks (trimmed.symm ▸ segment) answer state
  rw [trimmed, Panel.stackRequests, if_neg typed] at sent
  exact sent

namespace Session

/-- In every session the stack created last is the last one whose id was given, and the field of the
stack id holds the last of the ids that were given and the texts that were committed there. Only the
creation of a stack brings an id, by a reply that gives one, and an end without an id leaves all
fields alone. As long as no text is committed after an id was given, the actions on the typed stack
are about the id given last, if it can stand in a path. -/
theorem stackIds_hold_last_written (settings : Settings) (preferences : Preferences)
    (logPath : Option String) (events : List Event) :
    let opened := start settings preferences logPath
    let session := opened.after events
    session.panel.inputs.lastStackId = (observed createdIds opened events).getLast?.getD "" ∧
    session.panel.inputs.stackId = (observed (written .stackId) opened events).getLast?.getD "" ∧
    (∀ action ∈ session.pending, ∀ replies,
      ∀ sent ∈ action.exchange.transcript Exchange.scripted replies, ∀ id,
        createdId? sent = some id ↔ action.id = .createStack ∧ sent.2.Gives id) ∧
    (∀ position now replies, session.createdIds (.answer position now replies) = [] →
      (session.step (.answer position now replies)).panel.inputs = session.panel.inputs) ∧
    ∀ earlier later id, events = earlier ++ later →
      (observed createdIds (opened.after earlier) later).getLast? = some id →
      observed (committed .stackId) (opened.after earlier) later = [] →
      session.panel.inputs.stackId = id ∧
      (StackId.IsSegment id → session.panel.isBusy = false →
        ∀ now trigger method ending, trigger.id.onStack? = some (method, ending) →
          trigger.id ≠ .deleteItem →
          ∃ action, (session.terminal.launch .standard now trigger).started = some action ∧
            ∀ {σ : Type} (answer : σ → Request → Reply × σ) (state : σ),
              (action.exchange.run answer state).sent =
                [session.panel.stackRequest method id ending]) := by
  intro opened session
  have opens : opened.Reachable := .start settings preferences logPath
  have reached : session.Reachable := opens.after events
  -- Both fields have been followed through the run before.
  refine ⟨lastStackId_after opens events, get_after opens .stackId events, ?_, ?_, ?_⟩
  · intro action started replies sent listed id
    -- An order is sent exactly by the creation of a stack.
    have request : sent.1 ∈ (action.exchange.run Exchange.scripted replies).sent := by
      rw [← Exchange.map_fst_transcript]
      exact List.mem_map_of_mem listed
    have fits := (Dispatcher.standard_sends (reached.standard action started)
      action.context).of_mem_sent Exchange.scripted replies sent.1 request
    rw [createdId?_eq_some_iff, fits.2]
  · -- An end that gives no id has nothing to set.
    intro position now replies nothing
    rw [inputs_answer reached position now replies, nothing]
    rfl
  · -- Without a finished edit the texts that were written are the ids that were given.
    rintro earlier later id rfl given uncommitted
    have holds : session.panel.inputs.stackId = id := by
      have between : (opened.after earlier).Reachable := opens.after earlier
      have latest := get_after between .stackId later
      rw [written_stackId_of_uncommitted uncommitted, given] at latest
      have joined : session = (opened.after earlier).after later := by
        simp [session, Session.after]
      rw [joined]
      exact latest
    -- The field holds the id, so the next action on the typed stack asks for it.
    refine ⟨holds, ?_⟩
    rintro segment free now trigger method ending about typed
    obtain ⟨action, started, sent⟩ :=
      session.terminal.launch_onStack free now about typed (holds.symm ▸ segment)
    exact ⟨action, started, fun answer state => holds ▸ sent answer state⟩

/-- A creation that is answered with an id while the tab of single stacks is in front. -/
def creationEvents : List Event :=
  [.press { key := .char '3' } (.ofUnixMilliseconds 0) true,
    .press { key := .char 'n' } (.ofUnixMilliseconds 1) true,
    .press { key := .char '4' } (.ofUnixMilliseconds 2) true,
    .answer 0 (.ofUnixMilliseconds 3) [.answer 201 "\x7b\"stack_id\":\" stack-42\\n\"\x7d"]]

/-- The id goes trimmed into the field, and the status that is asked for next is that of the new
stack. -/
theorem creationEvents_hold_given_id :
    let session := (start { Settings.initial with podSpec := "pod" } .unavailable none).after
      creationEvents
    session.panel.inputs.stackId = "stack-42" ∧
      ∃ action, (session.terminal.launch .standard (.ofUnixMilliseconds 4)
          { id := .getStatus }).started = some action ∧
        (action.exchange.run Exchange.scripted []).sent.map (fun sent => (sent.method, sent.url)) =
          [(.get, "http://localhost:8081/stacks/stack-42/status")] := by
  intro session
  let opened := start { Settings.initial with podSpec := "pod" } .unavailable none
  obtain ⟨-, -, -, -, following⟩ := stackIds_hold_last_written
    { Settings.initial with podSpec := "pod" } .unavailable none creationEvents
  have given : (observed createdIds (opened.after []) creationEvents).getLast? =
      some "stack-42" := by decide +kernel
  have uncommitted : observed (committed .stackId) (opened.after []) creationEvents = [] := by
    decide +kernel
  obtain ⟨holds, asks⟩ := following [] creationEvents "stack-42" rfl given uncommitted
  have valid : StackId.validate "stack-42" = .ok "stack-42" := rfl
  -- No action is under way after the reply, so the next one can start.
  have free : session.panel.isBusy = false := by decide +kernel
  obtain ⟨action, started, sent⟩ := asks (StackId.validate_eq_ok_iff.mp valid).2 free
    (.ofUnixMilliseconds 4) { id := .getStatus } .get "/status" rfl (by decide)
  refine ⟨holds, action, started, ?_⟩
  have base : session.panel.connection.baseUrl = "http://localhost:8081" := by decide +kernel
  have request := congrArg (List.map fun sent => (sent.method, sent.url))
    (sent Exchange.scripted [])
  refine request.trans ?_
  simp only [List.map_cons, List.map_nil, Panel.stackRequest]
  exact congrArg (fun base => [(Method.get, base ++ "/stacks/" ++ "stack-42" ++ "/status")]) base

end Session

end StackPanel

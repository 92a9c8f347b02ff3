import StackPanel.Proofs.Action.Course
import StackPanel.Proofs.Json.RoundTrip

/-! A response reaches the console whole, whatever its status is. -/

namespace StackPanel

/-- Whether a payload tells which request was sent and what came back: the status with what it
means, and the text as an empty object if it is empty, as the value that it spells if it is JSON,
and as it is otherwise. -/
structure Payload.Tells (payload : Payload) (request : Request) (code : Nat) (raw : String) :
    Prop where
  method : payload.method = request.method
  url : payload.url = request.url
  status : payload.status = code
  ok : payload.ok = true ↔ 200 ≤ code ∧ code ≤ 299
  empty : raw = "" → payload.body = .json (.object [])
  json : ∀ value, Json.parse? raw = some value → payload.body = .json value
  text : raw ≠ "" → Json.parse? raw = none → payload.body = .text raw

/-- An empty text spells no value. -/
theorem Json.parse?_empty : parse? "" = none := by
  -- There is no character to start a value with, be it a word, a number or a bracket.
  simp [parse?, readValue?, skipGap, readNumberToken?, readWhole?, takeDigits]

/-- A body is read in one of three ways, and none of them loses anything. -/
theorem ResponseBody.parse_cases (raw : String) :
    (raw = "" → parse raw = .json (.object [])) ∧
      (∀ value, Json.parse? raw = some value → parse raw = .json value) ∧
      (raw ≠ "" → Json.parse? raw = none → parse raw = .text raw) := by
  refine ⟨?_, ?_, ?_⟩
  · rintro rfl
    rfl
  · intro value spelled
    -- An empty text would have been read as no value at all.
    have full : raw.isEmpty = false := by
      rw [Bool.eq_false_iff]
      intro empty
      rw [String.isEmpty_iff.mp empty, Json.parse?_empty] at spelled
      contradiction
    simp [parse, full, spelled]
  · -- Only here the text is neither empty nor JSON, so that it stays as it is.
    intro full unread
    simp [parse, full, unread]

/-- The outcome of a response is its payload, as a result or as an error by the status alone. -/
theorem Call.outcome_answer (request : Request) (status : Nat) (text : String) :
    ∃ payload : Payload, payload.Tells request status text ∧
      outcome request (.answer status text) =
        if 200 ≤ status ∧ status ≤ 299 then .ok payload else .error (.response payload) := by
  obtain ⟨empty, json, raw⟩ := ResponseBody.parse_cases text
  -- The upper bound of a success is open, which for whole numbers is the closed one below.
  have range : succeeded status = true ↔ 200 ≤ status ∧ status ≤ 299 := by
    simp only [succeeded, Bool.and_eq_true, decide_eq_true_eq]
    omega
  -- The payload is put together from the request and the response, part by part.
  refine ⟨{ method := request.method, url := request.url, status, ok := succeeded status
            body := .parse text }, ⟨rfl, rfl, rfl, range, empty, json, raw⟩, ?_⟩
  simp only [outcome, range]

namespace Payload

variable {payload : Payload} {request : Request} {status : Nat} {text : String}

/-- A payload is recorded in five fields. -/
theorem Tells.record_eq (tells : payload.Tells request status text) :
    payload.record = .object [
      ("body", payload.body.toJson),
      ("method", .text request.method.name),
      ("ok", .bool (200 ≤ status ∧ status ≤ 299)),
      ("status", .integer status),
      ("url", .text request.url)] := by
  simp [record, tells.method, tells.url, tells.status, ← tells.ok]

/-- The status, the address and the body can be looked up in the record of a payload. -/
theorem Tells.fields (tells : payload.Tells request status text) :
    payload.record.field? "status" = some (.integer status) ∧
      payload.record.field? "url" = some (.text request.url) ∧
      payload.record.field? "body" = some payload.body.toJson := by
  -- No field comes twice, so each lookup finds the field of its name.
  rw [tells.record_eq]
  exact ⟨rfl, rfl, rfl⟩

/-- A record of a payload is read back from its text, unless the body holds what cannot be. -/
theorem parse?_record (body : Json.Readable (Json.maxDepth - 1) payload.body.toJson)
    (range : payload.status ≤ 65535) :
    Json.parse? payload.record.indented = some payload.record := by
  -- A status has sixteen bits, which is fewer than the numbers that are read back.
  have word : Json.InWord payload.status := by
    unfold Json.InWord
    simp only [Nat.pow_eq]
    omega
  have order : ["body", "method", "ok", "status", "url"].Pairwise (· < ·) := by decide
  -- The record opens one container around the body, and its names are in order.
  have readable : Json.Readable (Json.maxDepth - 1 + 1) payload.record := by
    refine .object ((List.pairwise_map (f := Prod.fst)).mp order) fun field member => ?_
    simp only [List.mem_cons, List.not_mem_nil, or_false] at member
    -- Of the five fields only the body can be anything but a plain value.
    rcases member with rfl | rfl | rfl | rfl | rfl
    · exact body
    · exact .text _
    · exact .bool _
    · exact .integer word
    · exact .text _
  exact readable.parse?_indented

/-- The record in the console of a response with some status: its state and its title tell whether
the status means success, and its body is the same either way. -/
theorem endRecord_answer {ending : Except ActionError Payload → ActionOutcome}
    (records : ActionOutcome.Records ending) (now : Instant) (title : String) (request : Request)
    (status : Nat) (text : String) :
    ∃ payload : Payload, payload.Tells request status text ∧
      Panel.endRecord now title (ending (Call.outcome request (.answer status text))).result =
        if 200 ≤ status ∧ status ≤ 299 then
          { stamp := some now, title, body := payload.record.indented, state := .ok
            errorKind := none }
        else
          { stamp := some now, title := title ++ " (ERROR)", body := payload.record.indented
            state := .error, errorKind := some .response } := by
  obtain ⟨payload, tells, outcome⟩ := Call.outcome_answer request status text
  refine ⟨payload, tells, ?_⟩
  rw [outcome]
  split
  · -- The status means success, and the record is that of the payload.
    obtain ⟨created, succeeded⟩ := records.payload payload
    rw [succeeded]
    rfl
  · -- Any other status makes an error with the same payload.
    rw [records.error]
    rfl

end Payload

/-- A call sends its own request once. Without a response it ends in an error of transport with the
message unchanged, and any response becomes the payload that tells of it, as a result or as an error
by its status. An action with one call on an idle panel leaves a record of that payload in the
console, of the same five fields whether the call succeeded or not. -/
theorem response_reaches_console {σ : Type} (answer : σ → Request → Reply × σ) (state : σ) :
    (∀ (call : Call) (connection : Connection),
      let request := call.request connection
      let run := (call.perform connection).run answer state
      run.sent = [request] ∧
      match (answer state request).1 with
      | .failure message => run.result = some (.error (.transport message))
      | .answer status text => ∃ payload : Payload, payload.Tells request status text ∧
        run.result = some
          (if 200 ≤ status ∧ status ≤ 299 then .ok payload else .error (.response payload))) ∧
    ∀ (panel : Panel) (now : Instant) (trigger : ActionTrigger), panel.isBusy = false →
      trigger.id ≠ .clearConsole → trigger.id ≠ .deleteItem → ¬panel.Refuses trigger →
      let title := trigger.id.title
      let run := Dispatcher.standard.runAction panel now trigger answer state
      ∃ request, run.sent = [request] ∧
      match (answer state request).1 with
      | .failure message => run.panel.console = .failure now title (.transport message)
      | .answer status text => ∃ payload : Payload, payload.Tells request status text ∧
        let record : Json := .object [
          ("body", payload.body.toJson),
          ("method", .text request.method.name),
          ("ok", .bool (200 ≤ status ∧ status ≤ 299)),
          ("status", .integer status),
          ("url", .text request.url)]
        run.panel.console =
          (if 200 ≤ status ∧ status ≤ 299 then
            { stamp := some now, title, body := record.indented, state := .ok, errorKind := none }
          else
            { stamp := some now, title := title ++ " (ERROR)", body := record.indented
              state := .error, errorKind := some .response }) ∧
        record.field? "status" = some (.integer status) ∧
        record.field? "url" = some (.text request.url) ∧
        record.field? "body" = some payload.body.toJson ∧
        (Json.Readable (Json.maxDepth - 1) payload.body.toJson → status ≤ 65535 →
          Json.parse? run.panel.console.body = some record) := by
  constructor
  · -- A call is one request, and its outcome is the end of it.
    intro call connection request run
    refine ⟨rfl, ?_⟩
    -- The call ends with the outcome of its only reply.
    have ended : run.result = some (Call.outcome request (answer state request).1) := rfl
    rw [ended]
    cases (answer state request).1 with
    | failure message => rfl
    | answer status text =>
      obtain ⟨payload, tells, outcome⟩ := Call.outcome_answer request status text
      exact ⟨payload, tells, congrArg some outcome⟩
  · -- An action of one call adds its title and the time.
    intro panel now trigger idle remote single accepts title run
    -- There is one request and one way in which its outcome ends, whichever action it is.
    obtain ⟨request, ending, records, sent, shown⟩ :=
      Dispatcher.runAction_call idle now remote single accepts answer state
    refine ⟨request, sent, ?_⟩
    cases came : (answer state request).1 with
    | failure message =>
      rw [came, Call.outcome, records.error] at shown
      exact shown
    | answer status text =>
      obtain ⟨payload, tells, recorded⟩ :=
        Payload.endRecord_answer records now title request status text
      rw [came, recorded] at shown
      refine ⟨payload, tells, ?_⟩
      -- The fields are looked up in the record of the payload, which is the one that is stated.
      obtain ⟨code, url, body⟩ := tells.fields
      rw [← tells.record_eq]
      refine ⟨shown, code, url, body, fun readable range => ?_⟩
      -- The text in the console is that of the record, whether the call succeeded or not.
      have spelled : run.panel.console.body = payload.record.indented := by
        rw [shown]
        split <;> rfl
      rw [spelled]
      exact Payload.parse?_record readable (tells.status ▸ range)

/-- Asking for the health of a service that answers with some status and text. -/
def answeredHealth (status : Nat) (text : String) : ActionRun (List Reply) :=
  Dispatcher.standard.runAction (.start .initial .unavailable) (.ofUnixMilliseconds 0)
    { id := .health } Exchange.scripted [.answer status text]

/-- A status that is no success and a body that is no JSON are both read back from the console. -/
theorem answeredHealth_reaches_console :
    ∃ record, Json.parse? (answeredHealth 503 "no \"backend\"\n").panel.console.body = some record ∧
      record.field? "status" = some (.integer 503) ∧
      record.field? "body" = some (.text "no \"backend\"\n") ∧
      (answeredHealth 503 "no \"backend\"\n").panel.console.errorKind = some .response := by
  -- The panel is idle, and asking for the health is an action of one call that nothing refuses.
  have idle : (Panel.start .initial .unavailable).isBusy = false := rfl
  obtain ⟨-, reached⟩ := response_reaches_console Exchange.scripted
    [.answer 503 "no \"backend\"\n"]
  obtain ⟨request, sent, payload, tells, shown, status, -, body, parsed⟩ :=
    reached (.start .initial .unavailable) (.ofUnixMilliseconds 0) { id := .health } idle (by simp)
      (by simp) not_false
  -- The text is no JSON, so the body is the text itself, which can be read back.
  have raw : payload.body = .text "no \"backend\"\n" := tells.text (by simp) rfl
  have readable : Json.Readable (Json.maxDepth - 1) payload.body.toJson := by
    rw [raw]
    exact .text _
  exact ⟨_, parsed readable (by decide), status, raw ▸ body, (congrArg _ shown).trans rfl⟩

end StackPanel

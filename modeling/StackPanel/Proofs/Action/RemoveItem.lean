import StackPanel.Proofs.Action.Calls
import StackPanel.Proofs.Action.Dispatcher
import StackPanel.Proofs.Panel.Complete
import StackPanel.Proofs.Stack.Id

/-! Removing an item is two requests, whose ends go to the console and the list apart. -/

namespace StackPanel

/-- The id that a removal is aimed at, unless there is none or it is refused. -/
def removalTarget : Option String → Except InputError String
  | none => .error .stackIdMissing
  | some raw => StackId.validate raw

/-- A missing target counts as an empty id. -/
theorem validate_getD (target : Option String) :
    StackId.validate (target.getD "") = removalTarget target := by
  cases target with
  -- The empty id is refused with the error of a missing one.
  | none => rfl
  | some raw => rfl

/-- An accepted target is its text, trimmed. -/
theorem trim_of_removalTarget {target : Option String} {id : String}
    (accepted : removalTarget target = .ok id) : target.map Text.trim = some id := by
  cases target with
  | none => simp [removalTarget] at accepted
  | some raw =>
    obtain ⟨trimmed, -⟩ := StackId.validate_eq_ok_iff.mp accepted
    rw [Option.map_some, trimmed]

namespace Panel

/-- The header that carries the key of a panel, if it sends one. -/
def keyHeaders (panel : Panel) : List (String × String) :=
  panel.connection.apiKey.toList.map fun key => (apiKeyHeader, key)

/-- The request that removes a stack. -/
def removalRequest (panel : Panel) (id : String) : Request :=
  { method := .delete
    url := panel.connection.baseUrl ++ "/stacks/" ++ id
    headers := panel.keyHeaders
    body := none }

/-- The request that fetches the list. -/
def fetchRequest (panel : Panel) : Request :=
  { method := .get
    url := panel.connection.baseUrl ++ "/stacks"
    headers := panel.keyHeaders
    body := none }

/-- The request that asks for one stack. -/
def stackRequest (panel : Panel) (method : Method) (id ending : String) : Request :=
  { method
    url := panel.connection.baseUrl ++ "/stacks/" ++ id ++ ending
    headers := panel.keyHeaders
    body := none }

/-- A call without a body below the path of a stack becomes the request that asks for it. -/
theorem request_stack (panel : Panel) (method : Method) (id ending : String) :
    ({ method, path := ActionCalls.stackPath id ++ ending, body := none } : Call).request
      panel.connection = panel.stackRequest method id ending := by
  -- The path starts with one slash only, whatever the id and the end are.
  have url : Connection.joinUrl panel.connection.baseUrl ("/stacks/" ++ (id ++ ending)) =
      panel.connection.baseUrl ++ ("/stacks/" ++ (id ++ ending)) :=
    Connection.joinUrl_resolved _ _ 's' ("tacks/".toList ++ (id.toList ++ ending.toList)) (by simp)
      (by decide)
  simp [Call.request, Call.headers, stackRequest, keyHeaders, ActionCalls.stackPath, url,
    String.append_assoc]

/-- The call that removes a stack becomes the request that does. -/
theorem request_delete (panel : Panel) (id : String) :
    (Call.delete (ActionCalls.stackPath id)).request panel.connection =
      panel.removalRequest id := by
  -- Nothing follows the id in the path.
  have sent := panel.request_stack .delete id ""
  simpa [Call.delete, removalRequest, stackRequest] using sent

/-- The place of the list follows the base address of a panel. -/
theorem joinUrl_stacks (panel : Panel) :
    Connection.joinUrl panel.connection.baseUrl "/stacks" = panel.connection.baseUrl ++ "/stacks" :=
  Connection.joinUrl_resolved _ _ 's' "tacks".toList (by simp) (by decide)

/-- The call that fetches the list becomes the request that does. -/
theorem request_get (panel : Panel) :
    (Call.get "/stacks").request panel.connection = panel.fetchRequest := by
  -- The path has no end and the request no body, which leaves the method, the place and the
  -- headers.
  simp [Call.request, Call.get, Call.headers, fetchRequest, keyHeaders, joinUrl_stacks]

end Panel

/-- A target that is refused leads to no request. -/
theorem ActionCalls.removeItem_refused (context : ActionContext) {error : InputError}
    (refused : removalTarget context.target = .error error) :
    removeItem context = .done (.refused error) := by
  -- The refusal is found before anything is sent.
  simp [removeItem, validate_getD, refused]

/-- An accepted target leads to its removal and then in any case to the fetch. -/
theorem ActionCalls.removeItem_accepted {panel : Panel} {target : Option String} {id : String}
    (accepted : removalTarget target = .ok id) :
    removeItem (panel.context target) =
      .send (panel.removalRequest id) fun removed =>
        .send panel.fetchRequest fun fetched =>
          .done (.removed (Call.outcome (panel.removalRequest id) removed)
            (Call.outcome panel.fetchRequest fetched)) := by
  -- The context holds the target as it was aimed, so both readings of it agree.
  have valid : StackId.validate ((panel.context target).target.getD "") = .ok id :=
    (validate_getD target).trans accepted
  simp only [removeItem, valid]
  rw [← panel.request_delete id, ← panel.request_get]
  rfl

/-- The record of a removal and a fetch: both payloads if both succeeded, and otherwise the error of
the one that failed first. -/
def removalRecord (now : Instant) (title : String) (removed fetched : Except ActionError Payload) :
    ConsoleRecord :=
  match removed, fetched with
  | .ok deleted, .ok refreshed =>
    .success now title (.object [("delete", deleted.record), ("refresh", refreshed.record)])
  | .error error, _ => .failure now title error
  | .ok _, .error error => .failure now title error

/-- The record of an outcome of both requests is the one that both ends make. -/
theorem Panel.endRecord_removed (now : Instant) (title : String)
    (removed fetched : Except ActionError Payload) :
    endRecord now title (ActionOutcome.removed removed fetched).result =
      removalRecord now title removed fetched := by
  -- Of the four pairs of ends the two with a failed removal have the same error.
  cases removed <;> cases fetched <;> rfl

/-- A removal passes no id on to the fields. -/
theorem ActionOutcome.createdId?_removed (removed fetched : Except ActionError Payload) :
    (ActionOutcome.removed removed fetched).createdId? = none := by
  cases removed <;> cases fetched <;> rfl

/-- The record is one of success exactly if both replies mean success. -/
theorem removalRecord_state (now : Instant) (title : String) (removal fetch : Request)
    (removed fetched : Reply) :
    (removalRecord now title (Call.outcome removal removed) (Call.outcome fetch fetched)).state =
        .ok ↔
      removed.successText?.isSome ∧ fetched.successText?.isSome := by
  -- A call ends in a payload exactly for those replies.
  cases first : removed.successText? with
  | none =>
    obtain ⟨error, failed⟩ := Call.outcome_of_failure removal first
    -- The removal failed, so the record tells of it whatever the fetch did.
    simp [removalRecord, failed, ConsoleRecord.failure]
  | some deleted =>
    obtain ⟨_, deleted⟩ := Call.outcome_of_success removal first
    cases second : fetched.successText? with
    | none =>
      obtain ⟨error, failed⟩ := Call.outcome_of_failure fetch second
      -- The removal succeeded, and the record tells of the fetch.
      simp [removalRecord, deleted, failed, ConsoleRecord.failure]
    | some refreshed =>
      obtain ⟨_, refreshed⟩ := Call.outcome_of_success fetch second
      simp [removalRecord, deleted, refreshed, ConsoleRecord.success]

/-- Removing an item on an idle panel frees the lock again and changes nothing but the console and
the list. A target that is missing or refused sends nothing, is recorded as refused and leaves the
list. Any other is removed and then in any case the list is fetched, over the same connection: the
list shows a fetch that succeeded and stays as it was otherwise, and the console records success
exactly if both requests succeeded, and otherwise the error that came first. -/
theorem removeItem_reports_both_requests {panel : Panel} (idle : panel.isBusy = false)
    (now : Instant) (target : Option String) (removed fetched : Reply) (rest : List Reply) :
    let title := ActionId.deleteItem.title
    let run := Dispatcher.standard.runAction panel now { id := .deleteItem, target }
      Exchange.scripted (removed :: fetched :: rest)
    run.panel = { panel with console := run.panel.console, stackList := run.panel.stackList } ∧
    match removalTarget target with
    | .error error =>
      run.sent = [] ∧ run.final = removed :: fetched :: rest ∧
      run.panel.stackList = panel.stackList ∧
      run.panel.console = .failure now title (.validation error.message)
    | .ok id =>
      target.map Text.trim = some id ∧
      run.sent = [panel.removalRequest id, panel.fetchRequest] ∧ run.final = rest ∧
      run.panel.stackList =
        (match fetched.successText? with
        | some body => panel.stackList.showing body
        | none => panel.stackList) ∧
      (run.panel.console.state = .ok ↔
        removed.successText?.isSome ∧ fetched.successText?.isSome) ∧
      run.panel.console = removalRecord now title
        (Call.outcome (panel.removalRequest id) removed)
        (Call.outcome panel.fetchRequest fetched) := by
  intro title run
  -- The dispatcher knows the removal as one of the actions with requests.
  have handled : Dispatcher.standard.handler? ActionId.deleteItem =
      some (.remote ActionCalls.removeItem) := rfl
  have carried := Dispatcher.runAction_idle idle { id := .deleteItem, target } handled now
    Exchange.scripted (removed :: fetched :: rest)
  cases accepted : removalTarget target with
  | error error =>
    -- Nothing is sent, so the action ends at once with the refusal.
    rw [ActionCalls.removeItem_refused (panel.context target) accepted] at carried
    have ended : run.panel =
        { panel with console := .failure now title (.validation error.message) } := by
      simp only [run, carried, Panel.complete_begin _ _ idle]
      rfl
    refine ⟨by rw [ended], by simp only [run, carried, Exchange.run],
      by simp only [run, carried, Exchange.run], by rw [ended], by rw [ended]⟩
  | ok id =>
    -- Both requests are sent before either reply is judged.
    rw [ActionCalls.removeItem_accepted accepted] at carried
    let removal := Call.outcome (panel.removalRequest id) removed
    let fetch := Call.outcome panel.fetchRequest fetched
    -- No id is passed on, so the fields stay whatever the two ends are.
    have ended : run.panel =
        { panel with
          console := removalRecord now title removal fetch
          stackList := (panel.showListing (ActionOutcome.fetched fetch)).stackList } := by
      simp only [run, carried, Panel.complete_begin _ _ idle, Exchange.run, Exchange.scripted,
        PendingAction.completion, Option.getD_some, Panel.endRecord_removed,
        ActionOutcome.createdId?_removed]
      rfl
    refine ⟨by rw [ended], trim_of_removalTarget accepted, ?_, ?_, ?_, ?_, by rw [ended]⟩
    · -- Two replies were taken, for the two requests in their order.
      simp only [run, carried, Exchange.run, Exchange.scripted]
    · simp only [run, carried, Exchange.run, Exchange.scripted]
    · -- The list depends on the reply to the fetch alone.
      rw [ended]
      have shown := panel.showListing_fetched panel.fetchRequest fetched
      cases answered : fetched.successText? <;> simpa [answered, fetch] using shown
    · rw [ended]
      exact removalRecord_state ..

/-- The removal of a stack that is gone already, and the list that is fetched after it. -/
def removedTwice : ActionRun (List Reply) :=
  Dispatcher.standard.runAction (.start .initial .unavailable) (.ofUnixMilliseconds 0)
    { id := .deleteItem, target := some " abc " } Exchange.scripted
    [.answer 404 "gone", .answer 200 "\x7b\x7d"]

/-- The console tells that the stack was gone, while the list shows that nothing runs. -/
theorem removedTwice_reports_both_requests :
    removedTwice.sent.map (fun sent => (sent.method, sent.url)) =
        [(.delete, "http://localhost:8081/stacks/abc"), (.get, "http://localhost:8081/stacks")] ∧
      removedTwice.panel.stackList.content = .placeholder StackList.noResults ∧
      removedTwice.panel.console.state ≠ .ok ∧
      removedTwice.panel.console.errorKind = some .response ∧
      removedTwice.panel.isBusy = false := by
  have idle : (Panel.start .initial .unavailable).isBusy = false := rfl
  have target : removalTarget (some " abc ") = .ok "abc" := rfl
  have reported := removeItem_reports_both_requests idle (.ofUnixMilliseconds 0) (some " abc ")
    (.answer 404 "gone") (.answer 200 "\x7b\x7d") []
  simp only [target] at reported
  obtain ⟨kept, -, sent, -, listed, succeeds, recorded⟩ := reported
  refine ⟨?_, ?_, ?_, ?_, ?_⟩
  · -- Each part of the report is read at the two replies.
    exact (congrArg _ sent).trans rfl
  · exact (congrArg _ listed).trans rfl
  · exact fun ok => absurd (succeeds.mp ok).1 (by decide)
  · exact (congrArg _ recorded).trans rfl
  · exact (congrArg _ kept).trans idle

end StackPanel

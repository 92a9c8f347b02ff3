import StackPanel.CommandLine.Run
import StackPanel.Proofs.Action.Create
import StackPanel.Proofs.CommandLine.Prepare
import StackPanel.Proofs.Session.Exclusion
import StackPanel.Proofs.Session.StackIds

/-! A job carries out its action on a panel in one go and reports on the record that this leaves. -/

namespace StackPanel.CommandLine.Job

/-- The action of every job makes requests. -/
theorem action_remote (job : Job) : job.action ≠ .clearConsole := by
  cases job <;> simp [action]

variable {σ : Type} (host : Program.Host σ) (state : σ)

/-- The action of a job, carried through on a panel in one go and recorded under the time of its
end. -/
def carriedOut (job : Job) (panel : Panel) : ActionRun σ :=
  let trigger : ActionTrigger := { id := job.action }
  let early := Dispatcher.standard.runAction panel (host.now state) trigger host.answer state
  Dispatcher.standard.runAction panel (host.now early.final) trigger host.answer state

/-- The action of a job on an idle panel leaves its record, its list and a new id there, and nothing
else. -/
theorem carriedOut_eq (job : Job) {panel : Panel} (idle : panel.isBusy = false)
    {calls : ActionContext → Exchange ActionOutcome}
    (handled : Dispatcher.standard.handler? job.action = some (.remote calls)) :
    let action : PendingAction :=
      { id := job.action, title := job.action.title, calls, context := panel.context none }
    let run := action.exchange.run host.answer state
    let outcome := (action.completion run.result).outcome
    job.carriedOut host state panel =
      { panel :=
          { panel with
            console := Panel.endRecord (host.now run.final) job.action.title outcome.result
            stackList := (panel.showListing outcome.listing).stackList
            inputs := panel.inputsAfter outcome.createdId? }
        wasRemote := true
        sent := run.sent
        final := run.final } := by
  intro action run outcome
  -- Neither the end of the action nor its record depends on the time of its start.
  have carried := fun now =>
    Dispatcher.runAction_idle idle { id := job.action } handled now host.answer state
  simp only [carriedOut, carried, Panel.complete_begin _ _ idle]
  rfl

/-- A job does what carrying out its action does, and reports on it. -/
theorem run_perform (job : Job) {panel : Panel} (idle : panel.isBusy = false) :
    (job.perform panel).run host state =
      let done := job.carriedOut host state panel
      { result := job.report done.panel, printed := "", complaints := "", sent := done.sent
        final := done.final } := by
  -- Each job has an action that the dispatcher knows as one with requests.
  obtain ⟨calls, handled⟩ := Dispatcher.standard_remote job.action_remote
  -- The panel is idle, so the action starts, and its time of start is not that of its record.
  have dispatched : ∀ now, Dispatcher.standard.dispatch panel now { id := job.action } =
      (panel.begin now job.action.title,
        some { id := job.action, title := job.action.title, calls
               context := panel.context none }) := by
    intro now
    simp [Dispatcher.dispatch, idle, handled]
  rw [job.carriedOut_eq host state idle handled]
  simp only [perform, Program.run, dispatched, Program.run_bind, Program.run_ofExchange,
    Panel.complete_begin _ _ idle, String.append_empty, List.append_nil]
  rfl

section Run

variable (path : String) (settings : Settings) (preferences : Preferences)

/-- A job that gets what it was told to read fills it in and carries out its action. -/
theorem run_of_obtains {job : Job} {podSpec : Option String}
    (obtains : job.Obtains host state podSpec) :
    (job.run path settings preferences).run host state =
      let done := job.carriedOut host state (job.panel settings preferences podSpec)
      { result := .ok (job.report done.panel), printed := "", complaints := "", sent := done.sent
        final := done.final } := by
  -- A panel that has just started runs no action.
  have idle : (job.panel settings preferences podSpec).isBusy = false := rfl
  have prepared := run_prepare_of_obtains host state path settings preferences obtains
  have performed := job.run_perform host state idle
  simp [Job.run, Program.run_bind, prepared, performed, Program.run]

/-- A job that does not get what it was told to read fails and has done nothing. -/
theorem run_of_unreadable {job : Job} (unreadable : ∀ podSpec, ¬job.Obtains host state podSpec) :
    ∃ message, (job.run path settings preferences).run host state =
      { result := .error message, printed := "", complaints := "", sent := []
        final := state } := by
  obtain ⟨message, failed⟩ :=
    run_prepare_of_unreadable host state path settings preferences unreadable
  -- The error of preparing is the error of the whole job.
  exact ⟨message, by simp [Job.run, Program.run_bind, failed, Program.run]⟩

end Run

/-- The id that an order got is the one that its reply gives. -/
theorem createdId?_create (context : ActionContext) (answer : σ → Request → Reply × σ)
    {outcome : ActionOutcome}
    (reports : outcome.Reports context.connection none
      ((ActionCalls.create context).transcript answer state)) (id : String) :
    outcome.createdId? = some id ↔
      ∃ sent ∈ (ActionCalls.create context).transcript answer state, sent.2.Gives id := by
  rw [reports.createdId]
  unfold ActionCalls.create
  cases CreateRequest.build context.targetPort context.podSpec context.encoding with
  -- A form that is refused sends nothing, so no reply can give an id.
  | error error => simp [Exchange.transcript]
  | ok request =>
    -- There is one request, and it is an order.
    let order := (Call.post "/stacks" request.toJson).request context.connection
    have given : ∀ reply, createdId? (order, reply) = some id ↔ reply.Gives id := by
      intro reply
      rw [createdId?_eq_some_iff]
      exact and_iff_right rfl
    have only : (((Call.post "/stacks" request.toJson).perform context.connection).map
        ActionOutcome.created).transcript answer state = [(order, (answer state order).1)] := rfl
    rw [only]
    cases id? : createdId? (order, (answer state order).1) with
    | none => simp [id?, ← given]
    | some other => simp [id?, ← given]

/-- What a job prints beside the record: a line with the new id, if there is one. -/
def idLine : Option String → String
  | none => ""
  | some id => "\nstack_id: " ++ id ++ "\n"

/-- The report on an action that has ended is its record, and after an order the line with the id
that is in the field of the stack created last. -/
theorem report_eq (job : Job) {panel : Panel}
    (told : panel.console.state = .ok ∨ panel.console.state = .error) {created? : Option String}
    (shown : panel.console.state = .error → created? = none)
    (line : panel.console.state = .ok →
      if job.action = .createStack then
        panel.inputs.lastStackId = created?.getD "" ∧ ∀ id, created? = some id → id.isEmpty = false
      else created? = none) :
    job.report panel =
      { succeeded := panel.console.state = .ok
        text := panel.console.text ++ "\n" ++ idLine created? } := by
  unfold report
  rcases told with ok | failed
  · have line := line ok
    -- Only an order is followed by the line, and only where it was given an id.
    by_cases creates : job.action = .createStack
    · rw [if_pos creates] at line
      obtain ⟨last, filled⟩ := line
      cases created? with
      | none => simp [ok, last, idLine]
      | some id =>
        -- The line is put behind the record piece by piece.
        have pieces : panel.console.text ++ "\n" ++ "\nstack_id: " ++ id ++ "\n" =
            panel.console.text ++ "\n" ++ ("\nstack_id: " ++ id ++ "\n") := by
          simp only [String.append_assoc]
        simpa [ok, creates, last, filled id rfl, idLine] using pieces
    · rw [if_neg creates] at line
      simp [ok, creates, line, idLine]
  · -- A job that failed says nothing about an id, whichever action it was.
    simp [failed, shown failed, idLine]

/-- The action of a job on an idle panel ends with an outcome that reports on its requests and their
replies, and the panel is left with the record of that outcome. -/
theorem exists_outcome_carriedOut (job : Job) {panel : Panel} (idle : panel.isBusy = false)
    {calls : ActionContext → Exchange ActionOutcome}
    (handled : Dispatcher.standard.handler? job.action = some (.remote calls)) :
    ∃ (outcome : ActionOutcome) (time : Instant),
      outcome.Reports panel.connection job.action.fetchPosition?
        ((calls (panel.context none)).transcript host.answer state) ∧
      (job.carriedOut host state panel).panel =
        { panel with
          console := Panel.endRecord time job.action.title outcome.result
          stackList := (panel.showListing outcome.listing).stackList
          inputs := panel.inputsAfter outcome.createdId? } := by
  obtain ⟨outcome, ended, reports⟩ := Dispatcher.standard_endsReporting host.answer state handled
    (panel.context none)
  -- The record has the time at which the last reply came in.
  let time := host.now ((calls (panel.context none)).run host.answer state).final
  refine ⟨outcome, time, reports, ?_⟩
  simp only [job.carriedOut_eq host state idle handled, PendingAction.completion,
    PendingAction.exchange, ended, Option.getD_some]
  rfl

/-- The id of a new stack is not empty. -/
theorem isEmpty_createdId? {outcome : ActionOutcome} {connection : Connection}
    {position : Option Nat} {transcript : List (Request × Reply)}
    (reports : outcome.Reports connection position transcript) {id : String}
    (created : outcome.createdId? = some id) : id.isEmpty = false := by
  rw [reports.createdId] at created
  -- An id is taken from a reply, and one that is empty is left there.
  obtain ⟨sent, -, held⟩ := List.mem_filterMap.mp (List.mem_of_getLast? created)
  exact isEmpty_of_createdId? held

/-- The report on a job that started from a panel on which no stack was created yet: its record, and
after an order that was given an id the line with that id. -/
theorem report_carriedOut (job : Job) {panel : Panel} (idle : panel.isBusy = false)
    (new : panel.inputs.lastStackId = "")
    {calls : ActionContext → Exchange ActionOutcome}
    (handled : Dispatcher.standard.handler? job.action = some (.remote calls)) :
    let done := job.carriedOut host state panel
    let record := done.panel.console
    (record.state = .ok ∨ record.state = .error) ∧
    ∃ created?,
      (∀ id, created? = some id ↔ job.action = .createStack ∧
        ∃ sent ∈ (calls (panel.context none)).transcript host.answer state, sent.2.Gives id) ∧
      (record.state = .error → created? = none) ∧
      job.report done.panel =
        { succeeded := record.state = .ok, text := record.text ++ "\n" ++ idLine created? } := by
  intro done record
  obtain ⟨outcome, time, reports, left⟩ := job.exists_outcome_carriedOut host state idle handled
  have recorded : record = Panel.endRecord time job.action.title outcome.result := by
    simp only [record, done, left]
  -- The record is that of the outcome, which tells success from failure.
  obtain ⟨told, failed_iff⟩ := Panel.endRecord_tells time job.action.title outcome.result
  rw [← recorded] at told failed_iff
  refine ⟨told, ?_⟩
  by_cases creates : job.action = .createStack
  · -- The id that the outcome passes on is the one that the reply to the order gives.
    have given : ∀ id, outcome.createdId? = some id ↔
        ∃ sent ∈ (calls (panel.context none)).transcript host.answer state, sent.2.Gives id := by
      rw [creates] at handled reports
      simp only [Dispatcher.standard, Option.some.injEq, Handler.remote.injEq] at handled
      subst handled
      exact createdId?_create state _ host.answer reports
    have nothing : record.state = .error → outcome.createdId? = none := by
      intro failed
      obtain ⟨error, result⟩ := failed_iff.mp failed
      simp [ActionOutcome.createdId?, result]
    -- It is also in the field of the stack created last, which was empty before.
    have last : done.panel.inputs.lastStackId = outcome.createdId?.getD "" := by
      simp only [done, left]
      cases created : outcome.createdId? with
      | none => exact new
      | some id => rw [panel.inputsAfter_some (isEmpty_createdId? reports created)]; rfl
    refine ⟨outcome.createdId?, fun id => ?_, nothing, ?_⟩
    · rw [given]
      exact (and_iff_right creates).symm
    · exact job.report_eq told nothing fun _ => by
        rw [if_pos creates]
        exact ⟨last, fun id created => isEmpty_createdId? reports created⟩
  · -- No other action has such a line, whatever its reply holds.
    refine ⟨none, fun id => by simp [creates], fun _ => rfl, ?_⟩
    exact job.report_eq told (fun _ => rfl) fun _ => by rw [if_neg creates]

/-- A job that gets what it was told to read ends the program with its report, which is printed or
complained about by how its action ended. -/
theorem run_endWith {job : Job} {podSpec : Option String}
    (obtains : job.Obtains host state podSpec) (path : String) (settings : Settings)
    (preferences : Preferences) :
    (endWith job path settings preferences).run host state =
      let done := job.carriedOut host state (job.panel settings preferences podSpec)
      let report := job.report done.panel
      { result := .exit (if report.succeeded then 0 else 1)
        printed := if report.succeeded then report.text else ""
        complaints := if report.succeeded then "" else report.text
        sent := done.sent
        final := done.final } := by
  -- By its report the program ends with a success or a failure, and prints to one stream.
  simp only [endWith, Program.run_bind, run_of_obtains host state path settings preferences obtains]
  split <;> simp [Program.run]

end StackPanel.CommandLine.Job

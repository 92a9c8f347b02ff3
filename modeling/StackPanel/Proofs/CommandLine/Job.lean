import StackPanel.Proofs.CommandLine.Filled
import StackPanel.Proofs.CommandLine.Perform

/-! A job of the command line does what the panel does once the arguments of the job are in its
fields. -/

namespace StackPanel

namespace Session

variable {session : Session}

/-- An action that an event starts ends with its record in the console. -/
theorem Begins.console_deliver {event : Event} {action : PendingAction}
    (begins : session.Begins event action) (reached : session.Reachable) (now : Instant)
    (outcome : PendingAction → ActionOutcome) :
    ((session.step event).deliver 0 now outcome).panel.console =
      Panel.endRecord now action.id.title (outcome action).result := by
  obtain ⟨free, -, title⟩ := begins.cases
  -- It is the only one that is pending, and so the first.
  have only : (session.step event).pending = [action] := by
    rw [begins.1, reached.exclusive.pending_nil free]
    rfl
  have first : (session.step event).pending[0]? = some action := by simp [only]
  simp only [Session.deliver, first, Session.panel, Terminal.deliver, Panel.complete_eq,
    PendingAction.ending, title]

end Session

namespace CommandLine

/-- A job that does not get the pod description it was told to read fails before any request.
Otherwise it ends as the panel does: in every session that was opened with the same settings and
choices, once the arguments of the job are in its fields, an action of the job's kind that is started
there makes the same requests and leaves the same record. The record is printed and the run is a
success exactly if the record tells of one, and otherwise the record is a complaint. A line with an
id follows exactly if the job created a stack and the reply to its order gave that id. The world
changes by the requests alone, so that no choice is written, and the choices not at all. -/
theorem job_agrees_with_panel {σ : Type} (host : Program.Host σ) (state : σ) (job : Job)
    (path : String) (settings : Settings) (preferences : Preferences) :
    let run := (endWith job path settings preferences).run host state
    ((∀ podSpec, ¬job.Obtains host state podSpec) →
      run.result = .exit 1 ∧ run.printed = "" ∧ run.sent = [] ∧ run.final = state) ∧
    ∀ podSpec, job.Obtains host state podSpec →
      let done := (job.carriedOut host state (job.panel settings preferences podSpec)).panel
      ((job.run path settings preferences).run host state).result = .ok (job.report done) ∧
      done.preferences = preferences ∧
      run.final = Exchange.stateAfter host.answer state run.sent ∧
      ∀ logPath events event action,
        let opened := Session.start settings preferences logPath
        let session := opened.after events
        job.FilledIn podSpec opened events → session.Begins event action →
        action.id = job.action →
        let exchanged := action.exchange.transcript host.answer state
        let ended := (session.step event).deliver 0 (host.now run.final) fun action =>
          (action.execute host.answer state).1.outcome
        let record := ended.panel.console
        run.sent = exchanged.map Prod.fst ∧
        (record.state = .ok ∨ record.state = .error) ∧
        ∃ created?,
          (∀ id, created? = some id ↔
            job.action = .createStack ∧ ∃ sent ∈ exchanged, sent.2.Gives id) ∧
          (record.state = .ok →
            run.result = .exit 0 ∧ run.complaints = "" ∧
              run.printed = record.text ++ "\n" ++ Job.idLine created?) ∧
          (record.state = .error →
            run.result = .exit 1 ∧ run.printed = "" ∧ run.complaints = record.text ++ "\n" ∧
              created? = none) := by
  intro run
  constructor
  · -- Whatever could not be read, the job ends in a complaint before its action starts.
    intro unreadable
    obtain ⟨message, failed⟩ := Job.run_of_unreadable host state path settings preferences unreadable
    simp [run, endWith, Program.run_bind, failed, failBecause, fail, Program.run]
  · intro podSpec obtains done
    -- The panel of the job is new, so it is idle and no stack has been created on it.
    have idle : (job.panel settings preferences podSpec).isBusy = false := rfl
    have new : (job.panel settings preferences podSpec).inputs.lastStackId = "" :=
      job.lastStackId_filled podSpec _
    obtain ⟨calls, handled⟩ := Dispatcher.standard_remote job.action_remote
    -- The action is carried out on it, and its end decides what is reported.
    have carried := job.carriedOut_eq host state idle handled
    obtain ⟨told, created?, given, shown, reported⟩ :=
      job.report_carriedOut host state idle new handled
    have ran := Job.run_endWith host state obtains path settings preferences
    -- The last reading of the clock comes after all requests of the action.
    have final : run.final =
        ((calls ((job.panel settings preferences podSpec).context none)).run
          host.answer state).final := by
      simp only [run, ran, carried]
      rfl
    refine ⟨?_, by simp only [done, carried]; rfl, ?_, ?_⟩
    · rw [Job.run_of_obtains host state path settings preferences obtains]
    · simp only [run, ran, carried]
      exact Exchange.final_run ..
    · intro logPath events event action opened session filled begins sameId exchanged ended record
      have reached : session.Reachable := (Session.Reachable.start _ _ _).after events
      -- The panel starts the action from the same table and with the same inputs.
      have exchange : action.exchange =
          calls ((job.panel settings preferences podSpec).context none) := by
        -- An event that starts an action takes it from the table that the job takes its own from.
        obtain ⟨-, standard, -⟩ := begins.cases
        obtain ⟨-, target, context⟩ := begins
        rw [PendingAction.IsStandard, sameId, handled] at standard
        obtain rfl : calls = action.calls := by simpa using standard
        rw [PendingAction.exchange, context]
        exact filled.calls_eq handled target
      -- Both records are that of one outcome at the time of its end.
      have recorded : record = done.console := by
        simp only [record, ended, begins.console_deliver reached, sameId, done, carried, final]
        simp only [PendingAction.execute, PendingAction.completion, exchange, sameId]
        rfl
      rw [recorded]
      refine ⟨?_, told, created?, ?_, ?_, ?_⟩
      · simp only [run, ran, carried, exchanged, Exchange.map_fst_transcript, exchange]
        rfl
      · simpa only [exchanged, exchange] using given
      · -- A record of success is printed, with the line that belongs to it.
        intro ok
        have ok : (job.carriedOut host state
            (job.panel settings preferences podSpec)).panel.console.state = .ok := ok
        simp only [run, ran, reported, ok, done]
        simp
      · -- A record of failure is a complaint, and no id goes with it.
        intro failed
        have nothing := shown failed
        have failed : (job.carriedOut host state
            (job.panel settings preferences podSpec)).panel.console.state = .error := failed
        simp only [run, ran, reported, failed, nothing, done]
        simp [Job.idLine]

/-- A world that answers requests from a script, has one file to read and refuses to change. -/
def frozenHost : Program.Host (List Reply) where
  look _ _ := true
  read _ path := if path = "pod.yaml" then .content "pod" else .missing
  input _ := .missing
  now replies := .ofUnixMilliseconds replies.length
  makeDirectory replies _ := (some "read-only", replies)
  write replies _ _ := (some "read-only", replies)
  openLog replies _ := (false, replies)
  answer := Exchange.scripted

/-- Keys that take over the ports as they are and type a pod description into the form. -/
def formKeys : List Session.Event :=
  (["3", "Enter", "Enter", "j", "e", "pod", "Esc"].flatMap KeyPress.ofLine).map fun press =>
    .press press (.ofUnixMilliseconds 0) true

/-- A reply that gives a new stack its id. -/
def givenReply : Reply :=
  .answer 201 "\x7b\"stack_id\":\" stack-42\\n\"\x7d"

/-- Settings with an empty form. -/
def emptyForm : Settings :=
  { Settings.initial with podSpec := "" }

/-- The order of a stack whose description is in a file. -/
def orderFromFile : Job :=
  .create "80" (some "pod.yaml")

/-- The session in which the keys have filled in the form. -/
def filledForm : Session :=
  (Session.start emptyForm .unavailable none).after formKeys

/-- The action that the form is sent with. -/
def formAction : PendingAction :=
  { id := .createStack, title := ActionId.createStack.title, calls := ActionCalls.create
    context := filledForm.panel.context none }

/-- The order from a file is the request that the form sends, and the id that was given is printed.
Without the file there is no request. -/
theorem orderFromFile_agrees_with_panel :
    let run := (endWith orderFromFile "choices.json" emptyForm .unavailable).run frozenHost
      [givenReply]
    let missing := (endWith (.create "80" (some "other")) "choices.json" emptyForm .unavailable).run
      frozenHost [givenReply]
    run.sent = (formAction.exchange.transcript frozenHost.answer [givenReply]).map Prod.fst ∧
    run.sent.map (fun sent => (sent.method, sent.url)) =
      [(.post, "http://localhost:8081/stacks")] ∧
    run.result = .exit 0 ∧ (∃ record, run.printed = record ++ "\n" ++ "\nstack_id: stack-42\n") ∧
    missing.result = .exit 1 ∧ missing.sent = [] := by
  intro run missing
  -- The file is there for the order, and there is none by the other name.
  have obtains : orderFromFile.Obtains frozenHost [givenReply] (some "pod") := ⟨"pod", rfl, rfl⟩
  have nothing : ∀ podSpec,
      ¬(Job.create "80" (some "other")).Obtains frozenHost [givenReply] podSpec := by
    rintro podSpec ⟨text, found, -⟩
    have absent : (PodSpecFile.ofPath "other").found frozenHost [givenReply] = .missing := by
      decide +kernel
    exact absurd (absent.symm.trans found) (by simp)
  -- The keys leave in the fields what the job is told, and toggle nothing.
  have filled : orderFromFile.FilledIn (some "pod") (.start emptyForm .unavailable none)
      formKeys := by
    constructor
    · intro field reads
      cases field <;> decide +kernel
    · decide +kernel
  -- With the form filled in, the key for creation starts the action.
  have free : filledForm.panel.isBusy = false := by decide +kernel
  have normal : filledForm.terminal.mode = .normal := by decide +kernel
  have runs : Command.ofPress? filledForm.panel { key := .char 'n' } =
      some (.run { id := .createStack }) := by decide +kernel
  have begins : filledForm.Begins (.press { key := .char 'n' } (.ofUnixMilliseconds 0) true)
      formAction := Session.begins_of_press free normal runs rfl _ _
  -- Both runs are settled by the theorem: the one with the file and the one without.
  obtain ⟨-, agrees⟩ := job_agrees_with_panel frozenHost [givenReply] orderFromFile "choices.json"
    emptyForm .unavailable
  obtain ⟨-, -, -, inSession⟩ := agrees (some "pod") obtains
  obtain ⟨sent, -, created?, given, ok, -⟩ :=
    inSession none formKeys _ formAction filled begins rfl
  obtain ⟨fails, -⟩ := job_agrees_with_panel frozenHost [givenReply]
    (.create "80" (some "other")) "choices.json" emptyForm .unavailable
  obtain ⟨failed, -, unsent, -⟩ := fails nothing
  -- The only request is the order, and its reply gives the id.
  let body :=
    "\x7b\"pod_spec\":\"pod\",\"target_port\":[\x7b\"container_port\":80,\"protocol\":\"TCP\"\x7d]\x7d"
  have exchanged : formAction.exchange.transcript frozenHost.answer [givenReply] =
      [(filledForm.panel.creationRequest body, givenReply)] := by decide +kernel
  have gives : givenReply.Gives "stack-42" :=
    (createdId?_eq_some_iff.mp
      (by decide +kernel : createdId? (filledForm.panel.creationRequest "", givenReply) =
        some "stack-42")).2
  obtain rfl : created? = some "stack-42" :=
    (given "stack-42").mpr ⟨rfl, _, by rw [exchanged]; exact List.mem_singleton_self _, gives⟩
  obtain ⟨succeeded, -, printed⟩ := ok (by decide +kernel)
  refine ⟨sent, ?_, succeeded, ⟨_, printed⟩, failed, unsent⟩
  -- The request of the run is that of the form, whose method and address are known.
  have requests := congrArg (List.map fun sent => (sent.method, sent.url)) sent
  rw [exchanged] at requests
  exact requests.trans (by decide +kernel)

end CommandLine

end StackPanel

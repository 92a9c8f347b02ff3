import StackPanel.Proofs.Action.Course

/-! A failed action tells what failed and leaves the data of the panel as it was. -/

namespace StackPanel

variable {σ : Type}

namespace Exchange

/-- Requests that are sent one after another, each with the reply that it gets. -/
def answered (answer : σ → Request → Reply × σ) (state : σ) : List Request → List (Request × Reply)
  | [] => []
  | request :: later =>
    let reply := answer state request
    (request, reply.1) :: answered answer reply.2 later

/-- Every request that is sent gets one reply. -/
theorem length_answered (answer : σ → Request → Reply × σ) (sent : List Request) :
    ∀ state, (answered answer state sent).length = sent.length := by
  -- The state changes with each reply, so the induction is over the requests for any state.
  induction sent with
  | nil => intro state; rfl
  | cons request later ih => intro state; simp [answered, ih]

/-- The first request whose reply does not mean success, with that reply. -/
def firstFailure? (exchanged : List (Request × Reply)) : Option (Request × Reply) :=
  exchanged.find? fun sent => sent.2.successText?.isNone

end Exchange

/-- The error of a call is one of transport without a response, and otherwise carries the
response. -/
theorem Call.error_cases {request : Request} {reply : Reply} {error : ActionError}
    (failed : outcome request reply = .error error) :
    (∃ message, reply = .failure message ∧ error = .transport message) ∨
      ∃ status text payload, reply = .answer status text ∧ ¬(200 ≤ status ∧ status < 300) ∧
        error = .response payload := by
  cases reply with
  | failure message => exact .inl ⟨message, rfl, (Except.error.inj failed).symm⟩
  | answer status text =>
    by_cases range : 200 ≤ status ∧ status < 300
    · -- An answer within the range is no error.
      simp [outcome, succeeded, range] at failed
    · have notOk : succeeded status = false := by simpa [succeeded] using range
      simp only [outcome, notOk] at failed
      exact .inr ⟨status, text, _, rfl, range, (Except.error.inj failed).symm⟩

/-- What an action makes of its requests and their replies, if it was refused or not. -/
structure ActionOutcome.Judges (outcome : ActionOutcome) (refused : Prop) (id : ActionId)
    (exchanged : List (Request × Reply)) : Prop where
  /-- A refused action sends nothing, a removal two requests and any other action one. -/
  count : (refused → exchanged = []) ∧
    (¬refused → exchanged.length = if id = .deleteItem then 2 else 1)
  /-- A refusal is an error of validation. -/
  refusal : refused → ∃ message, outcome.result = .error (.validation message)
  /-- Without a failed request there is a result. -/
  success : ¬refused → Exchange.firstFailure? exchanged = none →
    ∃ output, outcome.result = .ok output
  /-- The first request that failed gives the error. -/
  failure : ∀ request reply, Exchange.firstFailure? exchanged = some (request, reply) →
    ∃ error, Call.outcome request reply = .error error ∧ outcome.result = .error error
  /-- Beside an error there is a list only from a fetch that succeeded after a removal. -/
  listing : ∀ error, outcome.result = .error error → outcome.listing = none ∨
    id = .deleteItem ∧ ∃ fetch reply, exchanged[1]? = some (fetch, reply) ∧
      fetch.method = .get ∧ reply.successText?.isSome

namespace ActionOutcome

variable {refused : Prop} {id : ActionId}

/-- A refusal judges an exchange of nothing. -/
theorem judges_refused (refuses : refused) (error : InputError) :
    (ActionOutcome.refused error).Judges refused id [] where
  count := ⟨fun _ => rfl, fun accepts => absurd refuses accepts⟩
  refusal _ := ⟨error.message, rfl⟩
  success accepts := absurd refuses accepts
  failure request reply found := by simp [Exchange.firstFailure?] at found
  listing _ _ := .inl rfl

/-- An action that records its only call judges that call. -/
theorem Records.judges {ending : Except ActionError Payload → ActionOutcome}
    (records : Records ending) (accepts : ¬refused) (single : id ≠ .deleteItem) (request : Request)
    (reply : Reply) :
    (ending (Call.outcome request reply)).Judges refused id [(request, reply)] := by
  cases came : reply.successText? with
  | some text =>
    -- The call succeeded, so its payload is recorded.
    obtain ⟨status, succeeded⟩ := Call.outcome_of_success request came
    obtain ⟨created, recorded⟩ := records.payload (Call.payload request status text)
    refine ⟨⟨fun refuses => absurd refuses accepts, fun _ => by simp [single]⟩,
      fun refuses => absurd refuses accepts, fun _ _ => ⟨_, by rw [succeeded, recorded]⟩, ?_, ?_⟩
    · -- Its success leaves no request that failed.
      intro other reply found
      simp [Exchange.firstFailure?, came] at found
    · intro error failed
      simp [succeeded, recorded] at failed
  | none =>
    -- It failed, so it is the first to fail, and there is nothing beside its error.
    obtain ⟨error, failed⟩ := Call.outcome_of_failure request came
    have ended : ending (Call.outcome request reply) = .failed error := by
      rw [failed, records.error]
    refine ⟨⟨fun refuses => absurd refuses accepts, fun _ => by simp [single]⟩,
      fun refuses => absurd refuses accepts, ?_, ?_, ?_⟩
    · intro _ found
      simp [Exchange.firstFailure?, came] at found
    · intro other reply found
      -- The only request of the action is the one that failed.
      obtain ⟨rfl, rfl⟩ : request = other ∧ _ = reply := by
        simpa [Exchange.firstFailure?, came] using found
      exact ⟨error, failed, by rw [ended]; rfl⟩
    · intro _ _
      exact .inl (by rw [ended]; rfl)

/-- A removal judges its two requests, the first before the second. -/
theorem judges_removed (accepts : ¬refused) (item : id = .deleteItem) (removal : Request)
    {fetch : Request} (fetches : fetch.method = .get) (removed fetched : Reply) :
    (ActionOutcome.removed (Call.outcome removal removed) (Call.outcome fetch fetched)).Judges
      refused id [(removal, removed), (fetch, fetched)] := by
  have count : ([(removal, removed), (fetch, fetched)] : List (Request × Reply)).length =
      if id = .deleteItem then 2 else 1 := by simp [item]
  refine ⟨⟨fun refuses => absurd refuses accepts, fun _ => count⟩,
    fun refuses => absurd refuses accepts, ?_, ?_, ?_⟩
  · -- No failure among the two means that both brought a payload.
    intro _ found
    obtain ⟨first, second⟩ : removed.successText?.isSome ∧ fetched.successText?.isSome := by
      simpa [Exchange.firstFailure?, Option.isSome_iff_ne_none] using found
    obtain ⟨deleted, first⟩ := Option.isSome_iff_exists.mp first
    obtain ⟨refreshed, second⟩ := Option.isSome_iff_exists.mp second
    obtain ⟨_, first⟩ := Call.outcome_of_success removal first
    obtain ⟨_, second⟩ := Call.outcome_of_success fetch second
    exact ⟨_, by rw [first, second]; rfl⟩
  · intro request reply found
    cases first : removed.successText? with
    | none =>
      -- The error of the removal counts, whatever became of the fetch.
      obtain ⟨rfl, rfl⟩ : removal = request ∧ removed = reply := by
        simpa [Exchange.firstFailure?, first] using found
      obtain ⟨error, failed⟩ := Call.outcome_of_failure removal first
      exact ⟨error, failed, by rw [failed]; rfl⟩
    | some deleted =>
      -- The removal is done, so the fetch is the one that failed.
      cases second : fetched.successText? with
      | some refreshed => simp [Exchange.firstFailure?, first, second] at found
      | none =>
        obtain ⟨rfl, rfl⟩ : fetch = request ∧ fetched = reply := by
          simpa [Exchange.firstFailure?, first, second] using found
        obtain ⟨_, deleted⟩ := Call.outcome_of_success removal first
        obtain ⟨error, failed⟩ := Call.outcome_of_failure fetch second
        exact ⟨error, failed, by rw [deleted, failed]; rfl⟩
  · -- The list comes from the fetch alone.
    intro _ _
    cases second : fetched.successText? with
    | some refreshed => exact .inr ⟨item, fetch, fetched, rfl, fetches, by simp [second]⟩
    | none =>
      obtain ⟨error, failed⟩ := Call.outcome_of_failure fetch second
      exact .inl (by rw [failed]; rfl)

end ActionOutcome

namespace ActionOutcome.Judges

variable {outcome : ActionOutcome} {refused : Prop} {id : ActionId}
  {exchanged : List (Request × Reply)}

/-- An outcome is an error exactly after a refusal or a failed request. -/
theorem error_iff (judges : outcome.Judges refused id exchanged) :
    (∃ error, outcome.result = .error error) ↔
      refused ∨ ∃ sent ∈ exchanged, sent.2.successText? = none := by
  constructor
  · rintro ⟨error, failed⟩
    by_contra fine
    obtain ⟨accepts, answered⟩ := not_or.mp fine
    -- Neither happened, so there would be a result.
    have found : Exchange.firstFailure? exchanged = none := by
      simpa [Exchange.firstFailure?, List.find?_eq_none] using answered
    obtain ⟨output, succeeded⟩ := judges.success accepts found
    simp [succeeded] at failed
  · rintro (refuses | ⟨sent, member, failed⟩)
    · -- A refusal is an error of validation.
      obtain ⟨message, invalid⟩ := judges.refusal refuses
      exact ⟨_, invalid⟩
    · -- One that failed means that there is a first one.
      have found : (Exchange.firstFailure? exchanged).isSome := by
        rw [Exchange.firstFailure?, List.find?_isSome]
        exact ⟨sent, member, by simp [failed]⟩
      obtain ⟨⟨request, reply⟩, first⟩ := Option.isSome_iff_exists.mp found
      obtain ⟨error, -, ended⟩ := judges.failure request reply first
      exact ⟨error, ended⟩

/-- The kind of an error tells whether anything was sent and what the first failed request got. -/
theorem kind_iff (judges : outcome.Judges refused id exchanged) {error : ActionError}
    (failed : outcome.result = .error error) :
    (error.kind = .validation ↔ exchanged = []) ∧
      (error.kind = .transport ↔
        ∃ request message, Exchange.firstFailure? exchanged = some (request, .failure message)) ∧
      (error.kind = .response ↔
        ∃ request status text, Exchange.firstFailure? exchanged =
          some (request, .answer status text) ∧ ¬(200 ≤ status ∧ status ≤ 299)) := by
  by_cases refuses : refused
  · -- Nothing was sent, so no request can have failed.
    obtain ⟨message, invalid⟩ := judges.refusal refuses
    obtain rfl : ActionError.validation message = error :=
      Except.error.inj (invalid.symm.trans failed)
    rw [judges.count.1 refuses]
    simp [ActionError.kind, Exchange.firstFailure?]
  · -- Something was sent, and without a failure among it there would be no error.
    have sent : exchanged ≠ [] := by
      -- Each action that is not refused sends at least one request.
      rintro rfl
      have length := judges.count.2 refuses
      split at length <;> simp at length
    cases found : Exchange.firstFailure? exchanged with
    | none =>
      obtain ⟨output, succeeded⟩ := judges.success refuses found
      simp [succeeded] at failed
    | some first =>
      obtain ⟨request, reply⟩ := first
      obtain ⟨other, judged, ended⟩ := judges.failure request reply found
      obtain rfl : other = error := Except.error.inj (ended.symm.trans failed)
      -- The first reply that failed makes the error, and so its kind.
      rcases Call.error_cases judged with
        -- The reply was either lost or an answer outside the range of success.
        ⟨message, rfl, rfl⟩ | ⟨status, text, payload, rfl, range, rfl⟩
      · simp [ActionError.kind, sent]
      · have outside : 200 ≤ status → 299 < status := by omega
        simpa [ActionError.kind, sent] using outside

end ActionOutcome.Judges

/-- Whatever course an action takes, it ends in an outcome that judges its exchange. -/
theorem Panel.Course.judges {panel : Panel} {trigger : ActionTrigger}
    {exchange : Exchange ActionOutcome} (course : panel.Course trigger exchange)
    (answer : σ → Request → Reply × σ) (state : σ) :
    ∃ outcome, (exchange.run answer state).result = some outcome ∧
      outcome.Judges (panel.Refuses trigger) trigger.id
        (Exchange.answered answer state (exchange.run answer state).sent) := by
  -- These are all the ways that an action of the table can take.
  cases course with
  | refused refuses error => exact ⟨_, rfl, ActionOutcome.judges_refused refuses error⟩
  | call accepts single request records =>
    exact ⟨_, rfl, records.judges accepts single request _⟩
  | removal accepts item removal fetches =>
    exact ⟨_, rfl, ActionOutcome.judges_removed accepts item removal fetches _ _⟩

/-- An action with requests on an idle panel ends in an outcome that judges its exchange and shows
in the console, the list and the fields of the stack id alone. -/
theorem Dispatcher.runAction_judges {panel : Panel} (idle : panel.isBusy = false) (now : Instant)
    {trigger : ActionTrigger} (remote : trigger.id ≠ .clearConsole)
    (answer : σ → Request → Reply × σ) (state : σ) :
    let run := standard.runAction panel now trigger answer state
    ∃ outcome : ActionOutcome,
      outcome.Judges (panel.Refuses trigger) trigger.id
        (Exchange.answered answer state run.sent) ∧
      run.panel =
        { panel with
          console := Panel.endRecord now trigger.id.title outcome.result
          stackList := (panel.showListing outcome.listing).stackList
          inputs := panel.inputsAfter outcome.createdId? } := by
  intro run
  obtain ⟨calls, handled⟩ := standard_remote remote
  have carried := runAction_idle idle trigger handled now answer state
  obtain ⟨outcome, ended, judges⟩ := (standard_course panel handled).judges answer state
  refine ⟨outcome, ?_, ?_⟩
  · simpa only [run, carried] using judges
  · simp only [run, carried, ended, Panel.complete_begin _ _ idle]
    rfl

/-- An action with requests on an idle panel always ends with the lock released and a record of its
time that tells of success or of an error. It is an error exactly if the action was refused or one
of its calls failed, and then the first call that failed gives its kind. An error changes no data of
the panel but the list, and that only by a fetch that succeeded after a removal. A refused action
sends nothing, a removal two requests, and any other action one. -/
theorem failed_action_keeps_data {panel : Panel} (idle : panel.isBusy = false) (now : Instant)
    {trigger : ActionTrigger} (remote : trigger.id ≠ .clearConsole)
    (answer : σ → Request → Reply × σ) (state : σ) :
    let run := Dispatcher.standard.runAction panel now trigger answer state
    let record := run.panel.console
    let exchanged := Exchange.answered answer state run.sent
    let failure? := Exchange.firstFailure? exchanged
    run.panel.isBusy = false ∧ record.stamp = some now ∧
    (record.state = .ok ∨ record.state = .error) ∧
    (record.state = .error ↔
      panel.Refuses trigger ∨ ∃ sent ∈ exchanged, sent.2.successText? = none) ∧
    (record.state = .error →
      record.title = trigger.id.title ++ " (ERROR)" ∧
      (record.errorKind = some .validation ↔ run.sent = []) ∧
      (record.errorKind = some .transport ↔
        ∃ request message, failure? = some (request, .failure message)) ∧
      (record.errorKind = some .response ↔
        ∃ request status text, failure? = some (request, .answer status text) ∧
          ¬(200 ≤ status ∧ status ≤ 299)) ∧
      (∀ request reply, failure? = some (request, reply) →
        ∃ error, Call.outcome request reply = .error error ∧
          record = .failure now trigger.id.title error) ∧
      run.panel = { panel with console := record, stackList := run.panel.stackList } ∧
      (run.panel.stackList = panel.stackList ∨
        trigger.id = .deleteItem ∧ ∃ fetch reply, exchanged[1]? = some (fetch, reply) ∧
          fetch.method = .get ∧ reply.successText?.isSome)) ∧
    (panel.Refuses trigger → run.sent = []) ∧
    (¬panel.Refuses trigger → run.sent.length = if trigger.id = .deleteItem then 2 else 1) := by
  intro run record exchanged failure?
  obtain ⟨outcome, judges, ended⟩ :=
    Dispatcher.runAction_judges idle now remote answer state
  -- All that the console tells is the end of the action.
  have recorded : record = Panel.endRecord now trigger.id.title outcome.result := by
    simp only [record, run, ended]
  have replies : exchanged.length = run.sent.length := Exchange.length_answered ..
  -- Requests and their replies are counted alike, so nothing was sent where nothing was answered.
  have nothing : exchanged = [] ↔ run.sent = [] := by
    rw [← List.length_eq_zero_iff, replies, List.length_eq_zero_iff]
  obtain ⟨told, failed_iff⟩ := Panel.endRecord_tells now trigger.id.title outcome.result
  rw [← recorded] at told failed_iff
  refine ⟨by simp only [run, ended, idle], ?_, told, failed_iff.trans judges.error_iff, ?_, ?_, ?_⟩
  · rw [recorded]
    exact congrArg ConsoleRecord.stamp (Panel.endRecord_stamp now now _ _)
  · intro failed
    obtain ⟨error, result⟩ := failed_iff.mp failed
    rw [result] at recorded
    obtain ⟨validation, transport, response⟩ := judges.kind_iff result
    -- The kind of the record is that of the error it was made from.
    have kind : ∀ kind, record.errorKind = some kind ↔ error.kind = kind := by
      intro kind
      simp [recorded, Panel.endRecord, ConsoleRecord.failure]
    refine ⟨by rw [recorded]; rfl, (kind _).trans (validation.trans nothing),
      (kind _).trans transport, (kind _).trans response, ?_, ?_, ?_⟩
    · intro request reply found
      -- The first failure has one error, so the record is made from it.
      obtain ⟨other, judged, same⟩ := judges.failure request reply found
      obtain rfl : other = error := Except.error.inj (same.symm.trans result)
      exact ⟨other, judged, recorded⟩
    · -- An error passes on no id, so the fields of the stack id stay too.
      have noId : outcome.createdId? = none := by simp [ActionOutcome.createdId?, result]
      simp only [record, run, ended, noId]
      rfl
    · -- Only a fetch beside a failed removal shows something new.
      rcases judges.listing error result with none | fetched
      · left
        simp only [run, ended, none]
        rfl
      · exact .inr fetched
  · intro refuses
    exact nothing.mp (judges.count.1 refuses)
  · intro accepts
    rw [← replies, judges.count.2 accepts]

/-- The removal of an item that gets no response, and the list that is fetched after it. -/
def lostRemoval : ActionRun (List Reply) :=
  Dispatcher.standard.runAction (.start .initial .unavailable) (.ofUnixMilliseconds 0)
    { id := .deleteItem, target := some " abc " } Exchange.scripted
    [.failure "connection reset", .answer 200 "\x7b\x7d"]

/-- The lost removal is what the console tells of, although the list was fetched, and the fields
stay as they were. -/
theorem lostRemoval_keeps_data :
    lostRemoval.sent.length = 2 ∧ lostRemoval.panel.isBusy = false ∧
      lostRemoval.panel.console.errorKind = some .transport ∧
      lostRemoval.panel.console.title = ActionId.deleteItem.title ++ " (ERROR)" ∧
      lostRemoval.panel.inputs = (Panel.start .initial .unavailable).inputs := by
  have idle : (Panel.start .initial .unavailable).isBusy = false := rfl
  have remote : ({ id := .deleteItem, target := some " abc " } : ActionTrigger).id ≠
      .clearConsole := by simp
  have target : StackId.validate " abc " = .ok "abc" := rfl
  have accepts : ¬(Panel.start .initial .unavailable).Refuses
      { id := .deleteItem, target := some " abc " } := by
    obtain ⟨trimmed, segment⟩ := StackId.validate_eq_ok_iff.mp target
    exact not_not_intro (trimmed ▸ segment)
  have removal : Exchange.firstFailure?
      (Exchange.answered Exchange.scripted [.failure "connection reset", .answer 200 "\x7b\x7d"]
        lostRemoval.sent) =
      some ((Panel.start .initial .unavailable).removalRequest "abc",
        .failure "connection reset") := rfl
  obtain ⟨free, -, -, failed, kept, -, count⟩ := failed_action_keeps_data idle
    (.ofUnixMilliseconds 0) remote Exchange.scripted
    [.failure "connection reset", .answer 200 "\x7b\x7d"]
  have lost := failed.mpr (.inr ⟨_, List.mem_of_find?_eq_some removal, rfl⟩)
  obtain ⟨title, -, transport, -, -, data, -⟩ := kept lost
  exact ⟨count accepts, free, transport.mpr ⟨_, _, removal⟩, title, (congrArg _ data).trans rfl⟩

end StackPanel

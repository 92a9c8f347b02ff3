import StackPanel.Proofs.Action.Create
import StackPanel.Proofs.Action.StackTarget

/-! The courses that an action can take: it is refused, makes one call, or removes an item and
fetches the list. -/

namespace StackPanel

/-- Whether a panel refuses an action because of its inputs: a creation because of the form, and an
action on one stack because the text that names the stack is no segment of a path. -/
def Panel.Refuses (panel : Panel) (trigger : ActionTrigger) : Prop :=
  match trigger.id with
  | .createStack => panel.RefusesCreation
  | .getStack | .getStatus | .deleteStack | .deleteItem =>
    ¬StackId.IsSegment (Text.trim (panel.stackText trigger))
  | _ => False

/-- Whether an action ends as its only call does: an error is all it leaves, and a payload is
recorded. -/
structure ActionOutcome.Records (ending : Except ActionError Payload → ActionOutcome) : Prop where
  error : ∀ error, ending (.error error) = .failed error
  payload : ∀ payload, ∃ createdStackId,
    (ending (.ok payload)).result = .ok { record := payload.record, createdStackId }

namespace ActionOutcome

/-- The outcome of one call records it. -/
theorem records_single : Records single where
  error _ := rfl
  payload _ := ⟨none, rfl⟩

/-- The outcome of a fetch records it. -/
theorem records_listed : Records listed where
  error _ := rfl
  payload _ := ⟨none, rfl⟩

/-- The outcome of an order records it, whatever id comes with it. -/
theorem records_created : Records created where
  error _ := rfl
  payload payload := ⟨payload.body.stackId?, rfl⟩

end ActionOutcome

/-- How an action can go on from its inputs. -/
inductive Panel.Course (panel : Panel) (trigger : ActionTrigger) :
    Exchange ActionOutcome → Prop where
  /-- It is refused and sends nothing. -/
  | refused (refuses : panel.Refuses trigger) (error : InputError) :
    Course panel trigger (.done (.refused error))
  /-- It makes one call and ends as that does. -/
  | call (accepts : ¬panel.Refuses trigger) (single : trigger.id ≠ .deleteItem) (request : Request)
    {ending : Except ActionError Payload → ActionOutcome} (records : ActionOutcome.Records ending) :
    Course panel trigger (.send request fun reply => .done (ending (Call.outcome request reply)))
  /-- It removes an item and fetches the list, whatever became of the removal. -/
  | removal (accepts : ¬panel.Refuses trigger) (item : trigger.id = .deleteItem)
    (removal : Request) {fetch : Request} (fetches : fetch.method = .get) :
    Course panel trigger (.send removal fun removed => .send fetch fun fetched =>
      .done (.removed (Call.outcome removal removed) (Call.outcome fetch fetched)))

namespace Panel

variable {panel : Panel} {trigger : ActionTrigger}

/-- An action on the typed stack is refused or makes its call. -/
theorem course_onStack (call : String → Call) (single : trigger.id ≠ .deleteItem)
    (refuses : panel.Refuses trigger ↔
      ¬StackId.IsSegment (Text.trim panel.inputs.stackId)) :
    panel.Course trigger (ActionCalls.onStack call (panel.context trigger.target)) := by
  -- What is typed is trimmed first, and the rest decides.
  by_cases segment : StackId.IsSegment (Text.trim panel.inputs.stackId)
  · -- The context of the action holds what is typed, so its check is the one that is stated.
    have valid : StackId.validate (panel.context trigger.target).stackId =
        .ok (Text.trim panel.inputs.stackId) := StackId.validate_eq_ok_iff.mpr ⟨rfl, segment⟩
    rw [ActionCalls.onStack_accepted valid]
    exact .call (by simpa [refuses] using segment) single _ ActionOutcome.records_single
  · obtain ⟨error, invalid⟩ := StackId.validate_refused segment
    have refused : StackId.validate (panel.context trigger.target).stackId = .error error := invalid
    rw [ActionCalls.onStack_refused refused]
    exact .refused (refuses.mpr segment) error

/-- The removal of an item is refused or goes on to the fetch. -/
theorem course_removeItem (item : trigger.id = .deleteItem) :
    panel.Course trigger (ActionCalls.removeItem (panel.context trigger.target)) := by
  -- The target comes with the key and not from a field, and none is as an empty one.
  have text : panel.stackText trigger = trigger.target.getD "" := if_pos item
  have refuses : panel.Refuses trigger ↔
      ¬StackId.IsSegment (Text.trim (trigger.target.getD "")) := by
    simp [Refuses, item, text]
  by_cases segment : StackId.IsSegment (Text.trim (trigger.target.getD ""))
  · -- The removal reads its target from the context, where a missing one is kept apart.
    have valid := StackId.validate_eq_ok_iff.mpr ⟨rfl, segment⟩
    rw [validate_getD] at valid
    rw [ActionCalls.removeItem_accepted valid]
    exact .removal (by simpa [refuses] using segment) item _ rfl
  · obtain ⟨error, invalid⟩ := StackId.validate_refused segment
    rw [validate_getD] at invalid
    rw [ActionCalls.removeItem_refused (panel.context trigger.target) invalid]
    exact .refused (refuses.mpr segment) error

/-- A creation is refused or makes its call. -/
theorem course_create (creates : trigger.id = .createStack) :
    panel.Course trigger (ActionCalls.create (panel.context trigger.target)) := by
  -- Among the reasons to refuse an action the form has a part in a creation only.
  have refuses : panel.Refuses trigger ↔ panel.RefusesCreation := by
    simp [Refuses, creates]
  -- What is built from the form decides, and nothing is sent before it.
  by_cases refused : panel.RefusesCreation
  · obtain ⟨error, failed⟩ := CreateRequest.build_refused refused
    rw [ActionCalls.create_refused (panel.context trigger.target) failed]
    exact .refused (refuses.mpr refused) error
  · obtain ⟨specs, wire, read, built, shapes⟩ := CreateRequest.build_accepted refused
    rw [ActionCalls.create_accepted built]
    exact .call (by simpa [refuses] using refused) (by simp [creates]) _
      ActionOutcome.records_created

end Panel

/-- Every action with requests takes one of the courses. -/
theorem Dispatcher.standard_course (panel : Panel) {trigger : ActionTrigger}
    {calls : ActionContext → Exchange ActionOutcome}
    (handled : standard.handler? trigger.id = some (.remote calls)) :
    panel.Course trigger (calls (panel.context trigger.target)) := by
  obtain ⟨id, target⟩ := trigger
  -- The table is read row by row, and only the clearing of the console has no requests.
  cases id
    <;> simp only [standard, Option.some.injEq, Handler.remote.injEq, reduceCtorEq] at handled
    <;> subst handled
  -- Calls that read no input are never refused.
  case health | stats =>
    exact .call (by simp [Panel.Refuses]) (by simp) _ ActionOutcome.records_single
  case listStacks | refreshList =>
    exact .call (by simp [Panel.Refuses]) (by simp) _ ActionOutcome.records_listed
  case getStack | getStatus | deleteStack => exact Panel.course_onStack _ (by simp) Iff.rfl
  case deleteItem => exact Panel.course_removeItem rfl
  case createStack => exact Panel.course_create rfl

/-- An action with one call that an idle panel does not refuse sends one request and records what
came back. -/
theorem Dispatcher.runAction_call {σ : Type} {panel : Panel} (idle : panel.isBusy = false)
    (now : Instant) {trigger : ActionTrigger} (remote : trigger.id ≠ .clearConsole)
    (single : trigger.id ≠ .deleteItem) (accepts : ¬panel.Refuses trigger)
    (answer : σ → Request → Reply × σ) (state : σ) :
    let run := standard.runAction panel now trigger answer state
    ∃ request ending, ActionOutcome.Records ending ∧ run.sent = [request] ∧
      run.panel.console = Panel.endRecord now trigger.id.title
        (ending (Call.outcome request (answer state request).1)).result := by
  intro run
  -- The action has calls of its own, which an idle panel carries out at once.
  obtain ⟨calls, handled⟩ := standard_remote remote
  have carried := runAction_idle idle trigger handled now answer state
  have course := standard_course panel handled
  -- Of the three courses only that of one call is left.
  generalize calls (panel.context trigger.target) = exchange at course carried
  cases course with
  | refused refuses => exact absurd refuses accepts
  | removal _ item => exact absurd item single
  | @call _ _ request ending records =>
    -- The end of the call is what the panel records under the title of the action.
    refine ⟨request, ending, records, by simp only [run, carried]; rfl, ?_⟩
    simp only [run, carried, Panel.complete_begin _ _ idle]
    rfl

end StackPanel

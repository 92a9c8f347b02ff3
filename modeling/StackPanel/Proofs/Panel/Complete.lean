import StackPanel.Proofs.Action.Report

/-! What the end of an action leaves on the panel. -/

namespace StackPanel.Panel

variable (panel : Panel) (now : Instant) (completion : Completion)

/-- Showing a list changes the list alone. -/
theorem showListing_eq (listing : Option Listing) :
    panel.showListing listing =
      { panel with stackList := (panel.showListing listing).stackList } := by
  unfold showListing
  split <;> rfl

/-- The record that an action of some title leaves when it ends. -/
def endRecord (title : String) : Except ActionError ActionOutput → ConsoleRecord
  | .ok output => .success now title output.record
  | .error error => .failure now title error

/-- Passing on an id changes the fields alone. -/
theorem propagateStackId_eq (id : String) :
    panel.propagateStackId id = { panel with inputs := (panel.propagateStackId id).inputs } := by
  unfold propagateStackId
  split <;> rfl

/-- The inputs after an action, which only a new id changes. -/
def inputsAfter : Option String → Inputs
  | none => panel.inputs
  | some id => (panel.propagateStackId id).inputs

/-- The list that is shown depends on the list before alone. -/
theorem stackList_showListing_congr (other : Panel) (same : other.stackList = panel.stackList)
    (listing : Option Listing) :
    (other.showListing listing).stackList = (panel.showListing listing).stackList := by
  unfold showListing
  -- Without a listing the list stays, with stacks it is shown anew, and an error puts a line there.
  split
  · exact same
  · simp only [same]
  · rfl

/-- The inputs after an action depend on the inputs before alone. -/
theorem inputsAfter_congr (other : Panel) (same : other.inputs = panel.inputs)
    (created : Option String) : other.inputsAfter created = panel.inputsAfter created := by
  unfold inputsAfter propagateStackId
  split
  · exact same
  · -- An id that is empty is dropped, and any other goes into the fields.
    split
    · exact same
    · simp only [same]

/-- The end of an action touches the lock, the console, the list and the fields of the stack id,
each by what its outcome holds. -/
theorem complete_eq :
    panel.complete now completion =
      { panel with
        isBusy := false
        console := endRecord now completion.title completion.outcome.result
        stackList := (panel.showListing completion.outcome.listing).stackList
        inputs := panel.inputsAfter completion.outcome.createdId? } := by
  -- The list comes first, then the record with the id, and the lock last.
  unfold complete
  simp only
  rw [showListing_eq]
  cases ended : completion.outcome.result with
  -- An error passes no id on, whatever the listing is.
  | error error => simp [showResult, endRecord, inputsAfter, ActionOutcome.createdId?, ended]
  | ok output =>
    cases given : output.createdStackId with
    | none => simp [showResult, endRecord, inputsAfter, ActionOutcome.createdId?, ended, given]
    | some id =>
      -- The id is passed on before the record is made, and the two touch different parts.
      simp only [showResult, given, endRecord, inputsAfter, ActionOutcome.createdId?, ended]
      rw [propagateStackId_eq]
      unfold propagateStackId
      split <;> rfl

/-- An idle panel through which an action has passed is idle again, with the end of the action in
its console, its list and its fields, and nothing of its start. -/
theorem complete_begin {panel : Panel} (idle : panel.isBusy = false) {started : Instant}
    (title : String) :
    (panel.begin started title).complete now completion =
      { panel with
        console := endRecord now completion.title completion.outcome.result
        stackList := (panel.showListing completion.outcome.listing).stackList
        inputs := panel.inputsAfter completion.outcome.createdId? } := by
  -- Neither the lock nor the running record has a part in what the end shows.
  have listed : ((panel.begin started title).showListing completion.outcome.listing).stackList =
      (panel.showListing completion.outcome.listing).stackList :=
    panel.stackList_showListing_congr (panel.begin started title) rfl _
  have passedOn : (panel.begin started title).inputsAfter completion.outcome.createdId? =
      panel.inputsAfter completion.outcome.createdId? :=
    panel.inputsAfter_congr (panel.begin started title) rfl _
  rw [complete_eq, listed, passedOn]
  simp [begin, idle]

/-- The record of an ended action does not run. -/
theorem endRecord_state (title : String) (result : Except ActionError ActionOutput) :
    (endRecord now title result).state ≠ .running := by
  cases result <;> simp [endRecord, ConsoleRecord.success, ConsoleRecord.failure]

/-- The record of an ended action tells of an error exactly if the action ended in one, and of
success otherwise. -/
theorem endRecord_tells (title : String) (result : Except ActionError ActionOutput) :
    let record := endRecord now title result
    (record.state = .ok ∨ record.state = .error) ∧
      (record.state = .error ↔ ∃ error, result = .error error) := by
  -- A record is either that of a success or that of a failure, and says which.
  cases result <;> simp [endRecord, ConsoleRecord.success, ConsoleRecord.failure]

/-- An id that is not empty goes into both fields that hold stack ids. -/
theorem inputsAfter_some {id : String} (given : id.isEmpty = false) :
    panel.inputsAfter (some id) = { panel.inputs with stackId := id, lastStackId := id } := by
  simp [inputsAfter, propagateStackId, given]

/-- An empty id is not passed on. -/
theorem inputsAfter_empty {id : String} (empty : id.isEmpty = true) :
    panel.inputsAfter (some id) = panel.inputs := by
  simp [inputsAfter, propagateStackId, empty]

/-- An action changes no inputs but those that hold stack ids. -/
theorem inputsAfter_eq (created : Option String) :
    panel.inputsAfter created =
      { panel.inputs with
        stackId := (panel.inputsAfter created).stackId
        lastStackId := (panel.inputsAfter created).lastStackId } := by
  cases created with
  | none => rfl
  | some id =>
    -- Whether the id is empty decides whether it is passed on.
    cases empty : id.isEmpty with
    | true => rw [panel.inputsAfter_empty empty]
    | false => rw [panel.inputsAfter_some empty]

/-- The records of one end at two times differ in their time only. -/
theorem endRecord_stamp (earlier : Instant) (title : String)
    (result : Except ActionError ActionOutput) :
    endRecord now title result = { endRecord earlier title result with stamp := some now } := by
  cases result <;> rfl

end StackPanel.Panel

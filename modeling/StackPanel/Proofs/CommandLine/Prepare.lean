import StackPanel.CommandLine.Job
import StackPanel.Proofs.CommandLine.Program
import StackPanel.Proofs.Terminal.Press

/-! What a job puts into the fields of its panel, and that this writes no choice. -/

namespace StackPanel.CommandLine.Job

/-- The inputs of a panel with a job's arguments in place, and with the pod description that was
read for it. -/
def filled (job : Job) (podSpec : Option String) (inputs : Inputs) : Inputs :=
  match job with
  | .health | .stats | .list => inputs
  | .get id | .status id | .delete id => inputs.set .stackId id
  | .create ports _ =>
    let inputs := inputs.set .targetPort ports
    match podSpec with
    | some text => inputs.set .podSpec text
    | none => inputs

/-- The panel that a job starts its action from. -/
def panel (job : Job) (settings : Settings) (preferences : Preferences) (podSpec : Option String) :
    Panel :=
  let panel := Panel.start settings preferences
  { panel with inputs := job.filled podSpec panel.inputs }

variable {σ : Type} (host : Program.Host σ) (state : σ)

/-- Whether a job gets a text as the pod description that it was told to read, or none because it
was told to read none. -/
def Obtains (job : Job) (podSpec : Option String) : Prop :=
  match job.podSpecFile? with
  | none => podSpec = none
  | some source => ∃ text, source.found host state = .content text ∧ podSpec = some text

section Fill

variable (path : String) (panel : Panel)

/-- A field other than that of the key is filled in without a write. -/
theorem run_fill {field : Field} (other : field ≠ .apiKey) (text : String) :
    (fill path panel (some (field, text))).run host state =
      { result := { panel with inputs := panel.inputs.set field text }
        printed := "", complaints := "", sent := [], final := state } := by
  -- Only the key is among the kept choices, so there is nothing to write.
  rw [fill, panel.setInput_of_ne other]
  rfl

/-- The argument of a job is filled in without a write, since none is a key. -/
theorem run_fill_input? (job : Job) :
    (fill path panel job.input?).run host state =
      { result := { panel with inputs := job.filled none panel.inputs }
        printed := "", complaints := "", sent := [], final := state } := by
  cases job with
  -- These have no argument at all.
  | health | stats | list => rfl
  | get id | status id | delete id => exact run_fill host state path panel (by decide) id
  | create ports file => exact run_fill host state path panel (by decide) ports

end Fill

variable (path : String) (settings : Settings) (preferences : Preferences)

/-- A job that gets what it was told to read is prepared with its panel, and has then printed, sent
and written nothing. -/
theorem run_prepare_of_obtains {job : Job} {podSpec : Option String}
    (obtains : job.Obtains host state podSpec) :
    (job.prepare path (.start settings preferences)).run host state =
      { result := .ok (job.panel settings preferences podSpec)
        printed := "", complaints := "", sent := [], final := state } := by
  unfold Obtains at obtains
  -- The argument goes in first, whether a file is read or not.
  rw [prepare, Program.run_bind, run_fill_input?]
  cases told : job.podSpecFile? with
  | none =>
    -- Told to read nothing, it goes on with the argument alone.
    rw [told] at obtains
    subst obtains
    rfl
  | some source =>
    rw [told] at obtains
    obtain ⟨text, found, rfl⟩ := obtains
    -- Only an order reads a description, and its ports have been filled in by then.
    cases job with
    | create ports file =>
      simp only [Program.run_bind, PodSpecFile.run_read, found, PodSpecFile.take,
        run_fill host state path _ (by decide : Field.podSpec ≠ .apiKey)]
      rfl
    | _ => contradiction

/-- A job that does not get what it was told to read cannot be prepared, and has done nothing. -/
theorem run_prepare_of_unreadable {job : Job}
    (unreadable : ∀ podSpec, ¬job.Obtains host state podSpec) :
    ∃ message, (job.prepare path (.start settings preferences)).run host state =
      { result := .error message, printed := "", complaints := "", sent := []
        final := state } := by
  unfold Obtains at unreadable
  rw [prepare, Program.run_bind, run_fill_input?]
  cases told : job.podSpecFile? with
  -- A job that reads nothing always gets what it was told to.
  | none => exact absurd (by simp [told]) (unreadable none)
  | some source =>
    simp only [told] at unreadable
    refine ⟨source.failure, ?_⟩
    -- Whatever was found there is no text.
    have failed : source.take (source.found host state) = .error source.failure := by
      cases found : source.found host state with
      | content text => exact absurd ⟨text, found, rfl⟩ (unreadable (some text))
      | missing | unreadable | garbled => rfl
    simp [Program.run_bind, PodSpecFile.run_read, failed, Program.run]

end StackPanel.CommandLine.Job

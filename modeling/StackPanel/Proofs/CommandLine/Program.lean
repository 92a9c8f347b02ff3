import StackPanel.CommandLine.Job

/-! What running a program leaves, from what its parts leave. -/

namespace StackPanel

/-- The state of whatever answers, after it has answered some requests. -/
def Exchange.stateAfter {σ : Type} (answer : σ → Request → Reply × σ) (state : σ)
    (sent : List Request) : σ :=
  sent.foldl (fun state request => (answer state request).2) state

/-- An exchange changes the state of what answers it by its requests alone. -/
theorem Exchange.final_run {σ α : Type} (answer : σ → Request → Reply × σ)
    (exchange : Exchange α) :
    ∀ state, (exchange.run answer state).final =
      stateAfter answer state (exchange.run answer state).sent := by
  induction exchange with
  | done result => intro state; rfl
  | crash => intro state; rfl
  | send request next ih =>
    -- What follows the first reply starts in the state that the first reply left.
    intro state
    exact ih _ _

namespace CommandLine

namespace Program

variable {σ α β : Type} (host : Host σ)

/-- A program that goes on with another leaves what the first leaves and then what the second does
in the world after it. -/
theorem run_bind (first : Program α) (continuation : α → Program β) :
    ∀ state, (first.bind continuation).run host state =
      let before := first.run host state
      let later := (continuation before.result).run host before.final
      { result := later.result
        printed := before.printed ++ later.printed
        complaints := before.complaints ++ later.complaints
        sent := before.sent ++ later.sent
        final := later.final } := by
  -- Each step stays in front of all that follows it, on both sides.
  induction first with
  -- What has been done by the end adds nothing.
  | done result => intro state; simp [bind, run]
  -- A text that is printed first stays in front of what is printed later.
  | print text next ih => intro state; simp [bind, run, ih, String.append_assoc]
  | complain text next ih => intro state; simp [bind, run, ih, String.append_assoc]
  | send request next ih => intro state; simp [bind, run, ih]
  -- The other steps print and send nothing, whatever the world answers.
  | look path next ih | read path next ih | readInput next ih | makeDirectory path next ih
  | write path text next ih | openLog path next ih | now next ih =>
    intro state
    simp only [bind, run, ih]

/-- The requests of an exchange are all that a program of them does. -/
theorem run_ofExchange (exchange : Exchange α) :
    ∀ state, (ofExchange exchange).run host state =
      let run := exchange.run host.answer state
      { result := run.result, printed := "", complaints := "", sent := run.sent
        final := run.final } := by
  induction exchange with
  | done result => intro state; rfl
  | crash => intro state; rfl
  | send request next ih => intro state; simp [ofExchange, run, Exchange.run, ih]

end Program

/-- What is found where a pod description comes from. -/
def PodSpecFile.found {σ : Type} (source : PodSpecFile) (host : Program.Host σ) (state : σ) :
    Reading :=
  match source with
  | .input => host.input state
  | .file path => host.read state path

/-- Reading a pod description is all that this program does. -/
theorem PodSpecFile.run_read {σ : Type} (source : PodSpecFile) (host : Program.Host σ)
    (state : σ) :
    source.read.run host state =
      { result := source.take (source.found host state), printed := "", complaints := ""
        sent := [], final := state } := by
  -- Both sources are one question to the host.
  cases source <;> rfl

end CommandLine

end StackPanel

import Mathlib.Algebra.Ring.Parity
import StackPanel.Proofs.CommandLine.Prepare
import StackPanel.Proofs.Session.StackIds

/-! What a job puts into the fields of the panel and what its action reads there: a session with the
arguments of a job in its fields makes the same requests. -/

namespace StackPanel.CommandLine.Job

/-- The text that a job puts into a field, if it puts one there. -/
def argument? (job : Job) (podSpec : Option String) (field : Field) : Option String :=
  match job, field with
  | .get id, .stackId | .status id, .stackId | .delete id, .stackId => some id
  | .create ports _, .targetPort => some ports
  | .create _ _, .podSpec => podSpec
  | _, _ => none

/-- Whether the action of a job reads a field. -/
def readsField (job : Job) (field : Field) : Bool :=
  match job, field with
  | _, .baseUrl | _, .apiKey => true
  | .get _, .stackId | .status _, .stackId | .delete _, .stackId => true
  | .create _ _, .targetPort | .create _ _, .podSpec => true
  | _, _ => false

/-- A field of the filled inputs holds the argument for it, or else what it held before. -/
theorem get_filled (job : Job) (podSpec : Option String) (inputs : Inputs) (field : Field) :
    (job.filled podSpec inputs).get field =
      (job.argument? podSpec field).getD (inputs.get field) := by
  -- Only an id, the ports and the file that was read are ever put into a field.
  cases job <;> cases field <;> cases podSpec <;> rfl

/-- No argument changes whether the key is sent. -/
theorem sendsApiKey_filled (job : Job) (podSpec : Option String) (inputs : Inputs) :
    (job.filled podSpec inputs).sendsApiKey = inputs.sendsApiKey := by
  cases job <;> cases podSpec <;> rfl

/-- No argument names a stack that was created. -/
theorem lastStackId_filled (job : Job) (podSpec : Option String) (inputs : Inputs) :
    (job.filled podSpec inputs).lastStackId = inputs.lastStackId := by
  cases job <;> cases podSpec <;> rfl

/-- The action of a job makes its requests on any two panels alike that agree in what it reads. -/
theorem calls_congr (job : Job) {calls : ActionContext → Exchange ActionOutcome}
    (handled : Dispatcher.standard.handler? job.action = some (.remote calls))
    {first second : Panel} (origin : first.origin = second.origin)
    (encoding : first.encoding = second.encoding)
    (sendsApiKey : first.inputs.sendsApiKey = second.inputs.sendsApiKey)
    (texts : ∀ field, job.readsField field = true →
      first.inputs.get field = second.inputs.get field)
    (target other : Option String) :
    calls (first.context target) = calls (second.context other) := by
  -- Every action reads the address and the key.
  have baseUrl : first.inputs.baseUrl = second.inputs.baseUrl :=
    texts .baseUrl (by cases job <;> rfl)
  have apiKey : first.inputs.apiKey = second.inputs.apiKey := texts .apiKey (by cases job <;> rfl)
  have connection : (first.context target).connection = (second.context other).connection := by
    simp only [Panel.context, Panel.connection, baseUrl, apiKey, origin, sendsApiKey]
  -- Beside the connection an action reads the id that was typed, or the form.
  cases job
    <;> simp only [action, Dispatcher.standard, Option.some.injEq, Handler.remote.injEq] at handled
    <;> subst handled
  case health | stats => simp only [ActionCalls.read, connection]
  -- The list and the two service pages need the connection alone.
  case list => simp only [ActionCalls.list, connection]
  -- Of a form that is filled in, these read nothing but the id.
  case get id | status id | delete id =>
    have stackId : (first.context target).stackId = (second.context other).stackId :=
      texts .stackId rfl
    simp only [ActionCalls.onStack, connection, stackId]
  -- To create a stack is the one action that reads the encoding of the configuration.
  case create ports path =>
    have targetPort : (first.context target).targetPort = (second.context other).targetPort :=
      texts .targetPort rfl
    have podSpec : (first.context target).podSpec = (second.context other).podSpec :=
      texts .podSpec rfl
    have shape : (first.context target).encoding = (second.context other).encoding := encoding
    simp only [ActionCalls.create, connection, targetPort, podSpec, shape]

/-- Whether events leave in the fields that the action of a job reads what the job is about: the
text written last to such a field is the argument for it, none is written where there is no
argument, and the choice of sending the key is in the end what it was. -/
structure FilledIn (job : Job) (podSpec : Option String) (opened : Session)
    (events : List Session.Event) : Prop where
  texts : ∀ field, job.readsField field = true →
    (Session.observed (Session.written field) opened events).getLast? = job.argument? podSpec field
  sendsApiKey : Even (Session.observed Session.toggles opened events).length

/-- With the arguments of a job in its fields, a session makes the requests that the panel of the
job does. -/
theorem FilledIn.calls_eq {job : Job} {podSpec : Option String} {settings : Settings}
    {preferences : Preferences} {logPath : Option String} {events : List Session.Event}
    (filled : job.FilledIn podSpec (.start settings preferences logPath) events)
    {calls : ActionContext → Exchange ActionOutcome}
    (handled : Dispatcher.standard.handler? job.action = some (.remote calls))
    (target : Option String) :
    calls (((Session.start settings preferences logPath).after events).panel.context target) =
      calls ((job.panel settings preferences podSpec).context none) := by
  let opened := Session.start settings preferences logPath
  have opens : opened.Reachable := .start settings preferences logPath
  let panel := job.panel settings preferences podSpec
  -- No event touches what the program was configured with.
  obtain ⟨origin, encoding⟩ := opened.configured_after events
  have sameOrigin : (opened.after events).panel.origin = panel.origin := origin
  have sameEncoding : (opened.after events).panel.encoding = panel.encoding := encoding
  refine job.calls_congr handled sameOrigin sameEncoding ?_ ?_ target none
  · -- The choice was changed and changed back.
    rw [Session.sendsApiKey_after opens events,
      Bool.involutive_not.iterate_even filled.sendsApiKey]
    exact (job.sendsApiKey_filled podSpec opened.panel.inputs).symm
  · -- What was written last is the argument, and a field without one is as it was.
    intro field reads
    have held := Session.get_after opens field events
    rw [filled.texts field reads] at held
    exact held.trans (job.get_filled podSpec opened.panel.inputs field).symm

end StackPanel.CommandLine.Job

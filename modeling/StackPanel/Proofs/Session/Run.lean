import Mathlib.Data.List.Induction
import StackPanel.Proofs.Action.Calls
import StackPanel.Proofs.Panel.Complete
import StackPanel.Proofs.Session.Basic

/-! Runs of a session, in which pending actions end by the replies that their requests get, and what
can be observed on the way. -/

namespace StackPanel.Session

/-- Every pending action of a reachable session makes the requests of the panel's own table. -/
theorem Reachable.standard {session : Session} (reached : session.Reachable) :
    ∀ action ∈ session.pending, action.IsStandard := by
  -- A key adds at most an action of the table, and an end only takes one away.
  induction reached with
  | start settings preferences logPath => simp [Session.start]
  | @step session next _ taken ih =>
    cases taken with
    | press press now written =>
      rcases session.press_cases press now written with
        ⟨same, _⟩ | ⟨_, same, _⟩ | ⟨_, action, _, standard, _, _, begun, _⟩
      · exact same ▸ ih
      · exact same ▸ ih
      · -- The new action comes from the table, and the others were there before.
        intro other started
        rcases List.mem_append.mp (begun ▸ started) with before | new
        · exact ih other before
        · exact List.mem_singleton.mp new ▸ standard
    | deliver position now outcome =>
      unfold Session.deliver
      split
      · -- Nothing is taken away where no action waits.
        exact ih
      · intro other left
        exact ih other (List.mem_of_mem_eraseIdx left)

/-- What happens in a session: a key, or the replies to all requests of a pending action. -/
inductive Event where
  | press (press : KeyPress) (now : Instant) (written : Bool)
  | answer (position : Nat) (now : Instant) (replies : List Reply)

/-- The outcome of an action whose requests get some replies, one after another. -/
def outcomeOf (replies : List Reply) (action : PendingAction) : ActionOutcome :=
  (action.execute Exchange.scripted replies).1.outcome

/-- The session after an event. -/
def step (session : Session) : Event → Session
  | .press press now written => session.press press now written
  | .answer position now replies => session.deliver position now (outcomeOf replies)

/-- The session after some events. -/
def after (session : Session) (events : List Event) : Session :=
  events.foldl step session

/-- An event is a step, in which the outcome of an action is the one that the replies make. -/
theorem step_of_event (session : Session) (event : Event) : session.Step (session.step event) := by
  cases event with
  | press press now written => exact .press press now written
  | answer position now replies => exact .deliver position now _

/-- Events lead only to sessions that can be reached. -/
theorem Reachable.after {session : Session} (reached : session.Reachable) (events : List Event) :
    (session.after events).Reachable := by
  -- Each event leads from a session that can be reached to another one.
  induction events generalizing session with
  | nil => exact reached
  | cons event rest ih => exact ih (reached.step (session.step_of_event event))

/-- Whether an event starts an action from the inputs as they are. -/
def Begins (session : Session) (event : Event) (action : PendingAction) : Prop :=
  (session.step event).pending = session.pending ++ [action] ∧
    ∃ target, action.context = session.panel.context target

/-- An action that is pending after an event was pending before, or the event has started it. -/
theorem mem_pending_step {session : Session} {event : Event} {action : PendingAction}
    (started : action ∈ (session.step event).pending) :
    action ∈ session.pending ∨ session.Begins event action := by
  cases event with
  | press press now written =>
    rcases session.press_cases press now written with
      ⟨same, -⟩ | ⟨-, same, -⟩ | ⟨-, fresh, target, -, -, context, begun, -⟩
    · -- Neither a key that rearranges nor one that clears the console adds anything.
      exact .inl (same ▸ started)
    · exact .inl (same ▸ started)
    · rcases List.mem_append.mp (begun ▸ started) with before | new
      · exact .inl before
      · obtain rfl := List.mem_singleton.mp new
        exact .inr ⟨begun, target, context⟩
  | answer position now replies =>
    -- The end of an action takes one away and adds none.
    simp only [step, Session.deliver] at started
    split at started
    · exact .inl started
    · exact .inl (List.mem_of_mem_eraseIdx started)

/-- An action that is pending after a run was started by some event of the run, from the inputs as
they were just before that event. -/
theorem begun_of_mem_pending {session : Session} (nothing : session.pending = [])
    {events : List Event} {action : PendingAction}
    (started : action ∈ (session.after events).pending) :
    ∃ earlier event later, events = earlier ++ event :: later ∧
      (session.after earlier).Begins event action := by
  -- The last event started it, or it was there before that event.
  induction events using List.reverseRecOn with
  | nil => simp [Session.after, nothing] at started
  | append_singleton events last ih =>
    have stepped : session.after (events ++ [last]) = (session.after events).step last := by
      simp [Session.after]
    rcases mem_pending_step (stepped ▸ started) with before | begins
    · obtain ⟨earlier, event, later, rfl, begins⟩ := ih before
      exact ⟨earlier, event, later ++ [last], by simp, begins⟩
    · exact ⟨events, last, [], rfl, begins⟩

/-- A key that stands for an action with requests starts it on a free panel, unless it goes to a field
that is edited. -/
theorem begins_of_press {session : Session} {press : KeyPress} {trigger : ActionTrigger}
    {calls : ActionContext → Exchange ActionOutcome} (free : session.panel.isBusy = false)
    (normal : session.terminal.mode = .normal)
    (runs : Command.ofPress? session.panel press = some (.run trigger))
    (handled : Dispatcher.standard.handler? trigger.id = some (.remote calls)) (now : Instant)
    (written : Bool) :
    session.Begins (.press press now written)
      { id := trigger.id, title := trigger.id.title, calls
        context := session.panel.context trigger.target } := by
  refine ⟨?_, trigger.target, rfl⟩
  -- On a free panel the action is dispatched to its handler, and waits behind the others.
  simp [step, Session.press, Terminal.press, normal, runs, Terminal.perform, Saving.of,
    Terminal.launch, Dispatcher.dispatch, free, handled]

/-- An event that starts an action finds the panel free, and starts it from the panel's own table
under its own title. -/
theorem Begins.cases {session : Session} {event : Event} {action : PendingAction}
    (begins : session.Begins event action) :
    session.panel.isBusy = false ∧ action.IsStandard ∧ action.title = action.id.title := by
  obtain ⟨begun, -⟩ := begins
  -- The list of pending actions has become longer by one.
  have longer := congrArg List.length begun
  cases event with
  | press press now written =>
    rcases session.press_cases press now written with
      ⟨same, -⟩ | ⟨-, same, -⟩ | ⟨free, fresh, -, standard, title, -, started, -⟩
    -- Of the three kinds of key only one leaves more actions than there were.
    · simp [step, same] at longer
    · simp [step, same] at longer
    · obtain rfl : fresh = action := by
        simpa using List.append_cancel_left (started.symm.trans begun)
      exact ⟨free, standard, title⟩
  | answer position now replies =>
    -- The end of an action adds none.
    have fewer : (session.step (.answer position now replies)).pending.length ≤
        session.pending.length := by
      simp only [step, Session.deliver]
      split
      · exact Nat.le_refl _
      · exact List.length_eraseIdx_le _ _
    simp only [List.length_append, List.length_singleton] at longer
    omega

/-- An event leaves the configured address and the shape in which ports are sent as they are. -/
theorem configured_step (session : Session) (event : Event) :
    (session.step event).panel.origin = session.panel.origin ∧
      (session.step event).panel.encoding = session.panel.encoding := by
  cases event with
  | press press now written =>
    -- A key launches an action or adjusts the panel, and neither touches the configuration.
    simp only [step, Session.press, Session.panel]
    rcases session.terminal.press_cases .standard now press written with
      ⟨trigger, -, -, launched⟩ | ⟨-, adjusted⟩
    · obtain ⟨isBusy, console, panel⟩ := session.terminal.panel_launch now trigger
      rw [launched, panel]
      exact ⟨rfl, rfl⟩
    · exact adjusted.configured
  | answer position now replies =>
    simp only [step, Session.deliver]
    split
    · exact ⟨rfl, rfl⟩
    · -- The end of an action fills in the console, the list and the fields.
      simp [Terminal.deliver, Panel.complete_eq]

/-- A run leaves the configured address and the shape in which ports are sent as they are. -/
theorem configured_after (session : Session) (events : List Event) :
    (session.after events).panel.origin = session.panel.origin ∧
      (session.after events).panel.encoding = session.panel.encoding := by
  induction events generalizing session with
  | nil => exact ⟨rfl, rfl⟩
  | cons event rest ih =>
    obtain ⟨origin, encoding⟩ := session.configured_step event
    obtain ⟨laterOrigin, laterEncoding⟩ := ih (session.step event)
    exact ⟨laterOrigin.trans origin, laterEncoding.trans encoding⟩

/-- The requests of the action that an event ends, each with its reply, and the connection over
which they went. -/
def exchanged (session : Session) : Event → List (Connection × Request × Reply)
  | .press _ _ _ => []
  | .answer position _ replies =>
    match session.pending[position]? with
    | none => []
    | some action =>
      (action.exchange.transcript Exchange.scripted replies).map (action.context.connection, ·)

/-- All that is observed event by event in a run. -/
def observed {α : Type} (observe : Session → Event → List α) (session : Session) :
    List Event → List α
  | [] => []
  | event :: rest => observe session event ++ observed observe (session.step event) rest

/-- The requests of an action of the table end in an outcome that reports what they brought. -/
theorem reports_outcomeOf {action : PendingAction} (standard : action.IsStandard)
    (replies : List Reply) :
    (outcomeOf replies action).Reports action.context.connection action.id.fetchPosition?
      (action.exchange.transcript Exchange.scripted replies) := by
  -- The actions of the table never break off, so the outcome is that of their own end.
  obtain ⟨outcome, ended, reports⟩ :=
    Dispatcher.standard_endsReporting Exchange.scripted replies standard action.context
  have same : outcomeOf replies action = outcome := by
    simp [outcomeOf, PendingAction.execute, PendingAction.completion, PendingAction.exchange, ended]
  exact same ▸ reports

/-- If each event sets a view of the session to the last thing that it lets observe, and leaves it
alone when there is nothing to observe, then so does a run. -/
theorem view_after {α β : Type} (observe : Session → Event → List α) (view : Session → β)
    (set : α → β → β) (Inv : Session → Prop) {Allowed : Event → Prop}
    (absorbs : ∀ first second view, set second (set first view) = set second view)
    (keeps : ∀ session, Inv session → ∀ event, Allowed event → Inv (session.step event))
    (steps : ∀ session, Inv session → ∀ event, Allowed event →
      view (session.step event) =
        (observe session event).getLast?.elim (view session) (set · (view session)))
    {session : Session} (holds : Inv session) (events : List Event)
    (allowed : ∀ event ∈ events, Allowed event) :
    Inv (session.after events) ∧ view (session.after events) =
      (observed observe session events).getLast?.elim (view session) (set · (view session)) := by
  -- The later observation wins, since setting a view forgets what was set before.
  induction events generalizing session with
  | nil => exact ⟨holds, rfl⟩
  | cons event rest ih =>
    -- The first event sets the view, and the rest of the run goes on from there.
    have now := allowed event List.mem_cons_self
    obtain ⟨held, viewed⟩ := ih (keeps session holds event now)
      fun later member => allowed later (List.mem_cons_of_mem event member)
    refine ⟨held, ?_⟩
    calc
      view (session.after (event :: rest))
        = view ((session.step event).after rest) := rfl
      _ = (observed observe (session.step event) rest).getLast?.elim
            (view (session.step event)) (set · (view (session.step event))) := viewed
      _ = (observed observe session (event :: rest)).getLast?.elim
            (view session) (set · (view session)) := by
          rw [steps session holds event now, observed, List.getLast?_append]
          -- Either event list may have nothing to observe, which leaves four cases.
          cases (observed observe (session.step event) rest).getLast? <;>
            cases (observe session event).getLast? <;> simp [absorbs]

end StackPanel.Session

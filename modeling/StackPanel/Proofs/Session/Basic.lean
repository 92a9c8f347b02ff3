import StackPanel.Proofs.Action.Dispatcher
import StackPanel.Proofs.Terminal.Press

/-! Sessions: a terminal with the actions that were started on it, driven by keys and by the ends of
those actions in any order. -/

namespace StackPanel

/-- A terminal and the actions started on it whose ends have not been delivered. -/
structure Session where
  /-- The terminal. -/
  terminal : Terminal
  /-- The started actions, in the order in which they started. -/
  pending : List PendingAction

/-- The end of a pending action, with its id and title. -/
def PendingAction.ending (action : PendingAction) (outcome : ActionOutcome) : Completion :=
  { id := action.id, title := action.title, outcome }

/-- Whether a pending action makes the requests that the panel's own table gives it. -/
def PendingAction.IsStandard (action : PendingAction) : Prop :=
  Dispatcher.standard.handler? action.id = some (.remote action.calls)

namespace Session

/-- The panel of a session. -/
abbrev panel (session : Session) : Panel := session.terminal.panel

/-- A session that has just been opened. -/
def start (settings : Settings) (preferences : Preferences) (logPath : Option String) : Session :=
  { terminal := .start (.start settings preferences) logPath, pending := [] }

/-- A key is pressed, and a choice to be saved is written or not. -/
def press (session : Session) (press : KeyPress) (now : Instant) (written : Bool) : Session :=
  let step := (session.terminal.press .standard now press).result written
  { terminal := step.terminal, pending := session.pending ++ step.started.toList }

/-- The pending action at a position ends, as far as there is one. -/
def deliver (session : Session) (position : Nat) (now : Instant)
    (outcome : PendingAction → ActionOutcome) : Session :=
  match session.pending[position]? with
  | none => session
  | some action =>
    { terminal := session.terminal.deliver now (action.ending (outcome action))
      pending := session.pending.eraseIdx position }

/-- One step: any key, or the end of any pending action with any outcome. -/
inductive Step (session : Session) : Session → Prop where
  | press (press : KeyPress) (now : Instant) (written : Bool) :
    Step session (session.press press now written)
  | deliver (position : Nat) (now : Instant) (outcome : PendingAction → ActionOutcome) :
    Step session (session.deliver position now outcome)

/-- The sessions that some steps lead to from an opened one. -/
inductive Reachable : Session → Prop where
  | start (settings : Settings) (preferences : Preferences) (logPath : Option String) :
    Reachable (start settings preferences logPath)
  | step {session next : Session} (reached : Reachable session) (taken : session.Step next) :
    Reachable next

/-- A key rearranges the panel at most, or on an idle panel clears the console or begins an action
of the panel's own table from the inputs as they are. -/
theorem press_cases (session : Session) (press : KeyPress) (now : Instant) (written : Bool) :
    (session.press press now written).pending = session.pending ∧
      session.panel.Rearranges (session.press press now written).panel ∨
    session.panel.isBusy = false ∧
      (session.press press now written).pending = session.pending ∧
      (session.press press now written).panel = Dispatcher.clearConsole session.panel ∨
    session.panel.isBusy = false ∧ ∃ action target,
      action.IsStandard ∧ action.title = action.id.title ∧
      action.context = session.panel.context target ∧
      (session.press press now written).pending = session.pending ++ [action] ∧
      (session.press press now written).panel = session.panel.begin now action.title := by
  -- A key launches an action, or it does anything else and starts none.
  rcases session.terminal.press_cases .standard now press written with
    ⟨trigger, -, -, launched⟩ | ⟨nothing, adjusted⟩
  · -- Only an action that is launched needs the dispatcher, and only an idle panel heeds it.
    simp only [Session.press, launched, Terminal.launch]
    cases busy : session.terminal.panel.isBusy with
    | true =>
      -- The refusal hands the same panel back.
      rw [Dispatcher.dispatch_busy _ busy]
      exact .inl ⟨by simp, .refl _⟩
    | false =>
      rcases Dispatcher.standard_dispatch_idle busy now trigger with
        cleared | ⟨calls, handled, begun⟩
      · rw [cleared]
        -- The console was cleared, and no action was started.
        exact .inr (.inl ⟨rfl, by simp, rfl⟩)
      · -- What was started holds the inputs as they were when the key was pressed.
        rw [begun]
        let action : PendingAction :=
          { id := trigger.id, title := trigger.id.title, calls
            context := session.panel.context trigger.target }
        exact .inr (.inr ⟨rfl, action, trigger.target, handled, rfl, rfl, by simp [action], rfl⟩)
  · -- Any other key leaves the started actions as they are.
    exact .inl ⟨by simp [Session.press, nothing], adjusted.rearranges⟩

end Session

end StackPanel

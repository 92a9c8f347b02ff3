import StackPanel.Action.Dispatcher

/-! What the dispatcher does with a trigger, by whether the panel is busy. -/

namespace StackPanel.Dispatcher

/-- A busy panel starts nothing and stays exactly as it is. -/
theorem dispatch_busy (dispatcher : Dispatcher) {panel : Panel} (busy : panel.isBusy = true)
    (now : Instant) (trigger : ActionTrigger) :
    dispatcher.dispatch panel now trigger = (panel, none) := by
  simp [dispatch, busy]

/-- Every action but the clearing of the console makes requests. -/
theorem standard_remote {id : ActionId} (other : id ≠ .clearConsole) :
    ∃ calls, standard.handler? id = some (.remote calls) := by
  cases id
  case clearConsole => contradiction
  -- Every other row of the table holds the calls of its action.
  all_goals exact ⟨_, rfl⟩

/-- An idle panel clears its console at once, and any other action begins with its requests still
to be made. -/
theorem standard_dispatch_idle {panel : Panel} (idle : panel.isBusy = false) (now : Instant)
    (trigger : ActionTrigger) :
    standard.dispatch panel now trigger = (clearConsole panel, none) ∨
    ∃ calls, standard.handler? trigger.id = some (.remote calls) ∧
      standard.dispatch panel now trigger =
        (panel.begin now trigger.id.title,
          some { id := trigger.id, title := trigger.id.title, calls,
                 context := panel.context trigger.target }) := by
  -- Each row of the table names its handler, and none is empty.
  obtain ⟨id, target⟩ := trigger
  cases id
  case clearConsole => exact .inl (by simp [dispatch, idle, standard])
  all_goals exact .inr ⟨_, rfl, by simp [dispatch, idle, standard]⟩

/-- On an idle panel an action with requests begins, runs and ends. -/
theorem runAction_idle {σ : Type} {dispatcher : Dispatcher} {panel : Panel}
    {calls : ActionContext → Exchange ActionOutcome} (idle : panel.isBusy = false)
    (trigger : ActionTrigger)
    (handled : dispatcher.handler? trigger.id = some (.remote calls)) (now : Instant)
    (answer : σ → Request → Reply × σ) (state : σ) :
    let action : PendingAction :=
      { id := trigger.id, title := trigger.id.title, calls
        context := panel.context trigger.target }
    let run := (calls (panel.context trigger.target)).run answer state
    dispatcher.runAction panel now trigger answer state =
      { panel := (panel.begin now action.title).complete now (action.completion run.result)
        wasRemote := true
        sent := run.sent
        final := run.final } := by
  -- Nothing can come between the start and the end, since the replies are at hand.
  simp [runAction, dispatch, idle, handled, PendingAction.execute, PendingAction.exchange]

end StackPanel.Dispatcher

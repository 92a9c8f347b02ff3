import StackPanel.Proofs.Panel.Complete
import StackPanel.Proofs.Session.Basic

/-! At most one action is under way: the lock, the console and the started actions agree in every
session that can be reached. -/

namespace StackPanel.Session

/-- Nothing is under way, or one action is, and the lock and the console show it. -/
inductive Exclusive (session : Session) : Prop where
  | idle (nothing : session.pending = []) (free : session.panel.isBusy = false)
    (rests : session.panel.console.state ≠ .running)
  | engaged (action : PendingAction) (only : session.pending = [action])
    (busy : session.panel.isBusy = true) (runs : session.panel.console.state = .running)
    (titled : session.panel.console.title = action.title)

/-- Whatever leaves the started actions, the lock and the console alone keeps exclusion. -/
theorem Exclusive.of_rearranges {before after : Session} (exclusive : before.Exclusive)
    (same : after.pending = before.pending) (rearranged : before.panel.Rearranges after.panel) :
    after.Exclusive := by
  obtain ⟨isBusy, console, -⟩ := rearranged
  cases exclusive with
  | idle nothing free rests =>
    exact .idle (same.trans nothing) (isBusy.trans free) (console ▸ rests)
  | engaged action only busy runs titled =>
    exact .engaged action (same.trans only) (isBusy.trans busy) (console ▸ runs) (console ▸ titled)

/-- On a free panel nothing is under way. -/
theorem Exclusive.pending_nil {session : Session} (exclusive : session.Exclusive)
    (free : session.panel.isBusy = false) : session.pending = [] := by
  cases exclusive with
  | idle nothing _ _ => exact nothing
  | engaged _ _ busy _ _ => simp [free] at busy

/-- A key keeps exclusion. -/
theorem Exclusive.press {session : Session} (exclusive : session.Exclusive) (press : KeyPress)
    (now : Instant) (written : Bool) : (session.press press now written).Exclusive := by
  rcases session.press_cases press now written with
    ⟨same, rearranged⟩ | ⟨free, same, cleared⟩ | ⟨free, action, _, _, _, _, begun, panel⟩
  · exact exclusive.of_rearranges same rearranged
  · -- Clearing is left to an idle panel, whose console then shows that it is idle.
    refine .idle (same.trans (exclusive.pending_nil free)) ?_ ?_ <;>
      simp [cleared, Dispatcher.clearConsole, ConsoleRecord.idle, free]
  · -- Nothing was under way on the free panel, so the new action is the only one.
    refine .engaged action (by simp [begun, exclusive.pending_nil free]) ?_ ?_ ?_ <;>
      simp [panel, Panel.begin, ConsoleRecord.running]

/-- The end of an action keeps exclusion, whatever its outcome. -/
theorem Exclusive.deliver {session : Session} (exclusive : session.Exclusive) (position : Nat)
    (now : Instant) (outcome : PendingAction → ActionOutcome) :
    (session.deliver position now outcome).Exclusive := by
  unfold Session.deliver
  cases found : session.pending[position]? with
  | none => exact exclusive
  | some action =>
    cases exclusive with
    -- Without a started action there is nothing to deliver.
    | idle nothing _ _ => simp [nothing] at found
    | engaged other only _ _ _ =>
      -- The only action that could end is gone, and its end frees the lock.
      have first : position = 0 := by
        rcases position with _ | position
        · rfl
        · simp [only] at found
      refine .idle (by simp [only, first]) ?_ ?_
      · simp [Terminal.deliver, Panel.complete_eq]
      · simp [Terminal.deliver, Panel.complete_eq, Panel.endRecord_state]

/-- Every session that can be reached is exclusive. -/
theorem Reachable.exclusive {session : Session} (reached : session.Reachable) :
    session.Exclusive := by
  -- Each step keeps what holds from the start.
  induction reached with
  | start settings preferences logPath =>
    exact .idle rfl rfl (by simp [Session.start, Terminal.start, Panel.start, ConsoleRecord.idle])
  | step _ taken ih =>
    cases taken with
    | press press now written => exact ih.press press now written
    | deliver position now outcome => exact ih.deliver position now outcome

/-- In every session that can be reached at most one action is under way; the lock is taken exactly
while one is, and exactly then the console shows a running record, under the title of that action;
and while the lock is taken, no key that stands for an action starts one or changes the panel. -/
theorem reachable_runs_one_action {session : Session} (reached : session.Reachable) :
    session.pending.length ≤ 1 ∧
    (session.panel.isBusy = true ↔ session.pending.length = 1) ∧
    (session.panel.console.state = .running ↔ session.panel.isBusy = true) ∧
    (∀ action ∈ session.pending, session.panel.console.title = action.title) ∧
    (session.panel.isBusy = true → ∀ press trigger now written,
      Command.ofPress? session.panel press = some (.run trigger) →
      (session.press press now written).pending = session.pending ∧
      (session.press press now written).panel = session.panel) := by
  refine ⟨?_, ?_, ?_, ?_, ?_⟩
  case refine_5 =>
    -- The keys are refused by the lock itself, in every session.
    intro busy press trigger now written runs
    obtain ⟨nothing, same⟩ := session.terminal.press_run_busy .standard now busy runs written
    exact ⟨by simp [Session.press, nothing], same⟩
  -- All else is read off the two ways in which a session is exclusive.
  all_goals
    cases reached.exclusive with
    | idle nothing free rests => simp [nothing, free, rests]
    | engaged action only busy runs titled => simp [only, busy, runs, titled]

/-- A new session in which the health of the service was asked for. -/
def askedForHealth : Session :=
  ((start .initial .unavailable none).press { key := .char '5' } (.ofUnixMilliseconds 0) true).press
    { key := .char 'h' } (.ofUnixMilliseconds 1) true

/-- While the health of the service is asked for, not even the console can be cleared. -/
theorem askedForHealth_runs_one_action :
    askedForHealth.Reachable ∧ askedForHealth.pending.length = 1 ∧
      askedForHealth.panel.console.state = .running ∧
      (∀ action ∈ askedForHealth.pending, action.title = "GET /healthz") ∧
      (askedForHealth.press { key := .char 'x' } (.ofUnixMilliseconds 2) true).panel =
        askedForHealth.panel := by
  -- Two keys lead there: one to the tab of the service and one for the action.
  have reached : askedForHealth.Reachable :=
    .step (.step (.start _ _ _) (.press _ _ _)) (.press _ _ _)
  obtain ⟨-, lock, console, titled, keys⟩ := reachable_runs_one_action reached
  have busy : askedForHealth.panel.isBusy = true := rfl
  refine ⟨reached, lock.mp busy, console.mpr busy, ?_, ?_⟩
  · intro action started
    exact (titled action started).symm
  · exact (keys busy _ { id := .clearConsole } _ _ rfl).2

end StackPanel.Session

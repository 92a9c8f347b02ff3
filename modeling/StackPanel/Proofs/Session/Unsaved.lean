import StackPanel.Proofs.Session.Run
import StackPanel.Proofs.Terminal.Unsaved
import StackPanel.Screen.Frame

/-! Two sessions that start from the same choices and meet the same events stay the same, whatever
becomes of the choices on disk. -/

namespace StackPanel

/-- A session without its disk and its clock. -/
def Session.core (session : Session) : Session :=
  { session with terminal := session.terminal.core }

namespace Session

/-- An event without what becomes of a choice and without its time. -/
def Event.core : Event → Event
  | .press key _ _ => .press key .epoch false
  | .answer position _ replies => .answer position .epoch replies

variable (session : Session)

/-- A session opens in the same way with a disk and without. -/
theorem core_start (settings : Settings) (preferences : Preferences) (logPath : Option String) :
    (start settings preferences logPath).core = start settings preferences.inMemory logPath :=
  rfl

/-- An event does the same with a disk and without. -/
theorem core_step (event : Event) : (session.step event).core = session.core.step event.core := by
  cases event with
  | press press now written =>
    have pressed := session.terminal.core_press now press written
    -- Only the session without a disk is stepped with the plain event.
    simp only [step, Session.press, core, Event.core, ← pressed, Terminal.Step.core]
  | answer position now replies =>
    simp only [step, deliver, Event.core]
    -- The disk has no part in which actions are under way, so the same one ends.
    have pending : session.core.pending = session.pending := rfl
    rw [pending]
    split
    · rfl
    · simp only [core, Terminal.core_deliver]

/-- A run does the same with a disk and without. -/
theorem core_after (events : List Event) :
    (session.after events).core = session.core.after (events.map Event.core) := by
  -- The step comes first and the rest is a run from where it leads, so the session varies.
  induction events generalizing session with
  | nil => rfl
  | cons event rest ih =>
    calc
      (session.after (event :: rest)).core
        = ((session.step event).after rest).core := rfl
      _ = (session.step event).core.after (rest.map Event.core) := ih _
      _ = (session.core.step event.core).after (rest.map Event.core) := by rw [core_step]

/-- The same requests are sent with a disk and without, and get the same replies. -/
theorem exchanged_core (event : Event) :
    session.core.exchanged event.core = session.exchanged event := by
  -- Neither the keys nor the replies of an event are part of what is left out.
  cases event <;> rfl

/-- All through a run the same requests are sent with a disk and without. -/
theorem observed_core (events : List Event) :
    observed exchanged session.core (events.map Event.core) =
      observed exchanged session events := by
  induction events generalizing session with
  -- Each event is seen from the session that the earlier ones have led to.
  | nil => rfl
  | cons event rest ih =>
    rw [List.map_cons, observed, observed, exchanged_core, ← core_step, ih]

end Session

/-- A panel whose choices reach the disk or not, with its record of some time or of none. -/
def Panel.saving (panel : Panel) (isAvailable : Bool) (stamp : Option Instant) : Panel :=
  { panel with
    preferences := { panel.preferences with isAvailable }
    console := { panel.console with stamp } }

/-- A terminal whose choices reach the disk or not, with its record of some time or of none. -/
def Terminal.saving (terminal : Terminal) (isAvailable : Bool) (stamp : Option Instant) :
    Terminal :=
  { terminal with panel := terminal.panel.saving isAvailable stamp }

/-- Panels with the same core differ in their disk and their clock at most. -/
theorem Panel.eq_saving_of_core {first second : Panel} (same : second.core = first.core) :
    second = first.saving second.preferences.isAvailable second.console.stamp ∧
      second.console.stamp.isSome = first.console.stamp.isSome := by
  -- Part by part: the core keeps all but the availability and the time.
  obtain ⟨_, ⟨_, _, _, _, _⟩, _, _, _, ⟨_, _⟩, _, _⟩ := first
  obtain ⟨_, ⟨_, _, _, _, _⟩, _, _, _, ⟨_, _⟩, _, _⟩ := second
  simp only [core, ConsoleRecord.timeless, Preferences.inMemory, Panel.mk.injEq,
    ConsoleRecord.mk.injEq, Preferences.mk.injEq, true_and] at same
  obtain ⟨rfl, ⟨stamps, rfl, rfl, rfl, rfl⟩, rfl, rfl, rfl, rfl, rfl, rfl⟩ := same
  -- A time that stands still is still there or not.
  have timed := congrArg Option.isSome stamps
  rw [Option.isSome_map, Option.isSome_map] at timed
  exact ⟨rfl, timed⟩

/-- Sessions with the same core have the same started actions, and terminals that differ in their
disk and their clock at most. -/
theorem Session.eq_saving_of_core {first second : Session} (same : second.core = first.core) :
    second.pending = first.pending ∧
      second.terminal = first.terminal.saving second.panel.preferences.isAvailable
        second.panel.console.stamp ∧
      second.panel.console.stamp.isSome = first.panel.console.stamp.isSome := by
  -- The parts of both sessions are compared one by one.
  obtain ⟨⟨_, _, _, _, _, _⟩, _⟩ := first
  obtain ⟨⟨_, _, _, _, _, _⟩, _⟩ := second
  simp only [core, Terminal.core, Session.mk.injEq, Terminal.mk.injEq] at same
  obtain ⟨⟨panels, rfl, rfl, rfl, rfl, rfl⟩, rfl⟩ := same
  obtain ⟨panel, timed⟩ := Panel.eq_saving_of_core panels
  exact ⟨rfl, congrArg (Terminal.mk · _ _ _ _ _) panel, timed⟩

namespace Screen

/-- The mark on the status bar while choices do not reach the disk. -/
def unsavedMark (isAvailable : Bool) : Line :=
  if isAvailable then []
  else [{ text := "  ·  prefs not saved", style := .colored Palette.warning }]

/-- The status bar tells in one place whether choices reach the disk. -/
theorem statusBar_saving (terminal : Terminal) (stamp : Option Instant) (columns : Nat) :
    ∃ ground before after, ∀ isAvailable,
      statusBar (terminal.saving isAvailable stamp) columns =
        Row.bar columns (.behind ground) (before ++ unsavedMark isAvailable ++ after) := by
  -- What stands around the mark is found in the bar of a terminal that does not save.
  apply Exists.intro
  apply Exists.intro
  apply Exists.intro
  intro isAvailable
  cases isAvailable with
  | false => rfl
  | true => rfl

/-- Whether choices reach the disk shows in the status bar, and in nothing else on the screen. -/
theorem drawIn_saving (terminal : Terminal) (stamp : Option Instant) (layout : Layout) :
    ∃ above below cursor, ∀ isAvailable,
      Frame.drawIn layout (terminal.saving isAvailable stamp) =
        { rows := above ++
            barRows layout.showsStatus (statusBar (terminal.saving isAvailable stamp)
              layout.columns) ++ below
          cursor } := by
  -- Everything but the status bar is read off a terminal that does not save.
  apply Exists.intro
  apply Exists.intro
  apply Exists.intro
  intro isAvailable
  cases isAvailable with
  | false => rfl
  | true => rfl

end Screen

namespace Session

/-- Two sessions that start from the same choices, available or not, and meet the same keys and the
same replies, at any times and with any writes that fail, are the same after every event but for
whether choices still reach the disk and for the time of the record. They have sent the same
requests, and but for that time their screens differ in one mark on the status bar, if they have
one. -/
theorem failing_store_changes_nothing (settings : Settings) {first second : Preferences}
    (values : second.values = first.values) (logPath : Option String) {events others : List Event}
    (alike : others.map Event.core = events.map Event.core) (count : Nat) :
    let one := (start settings first logPath).after (events.take count)
    let other := (start settings second logPath).after (others.take count)
    other.pending = one.pending ∧
    observed exchanged (start settings second logPath) (others.take count) =
      observed exchanged (start settings first logPath) (events.take count) ∧
    ∃ isAvailable stamp, other.terminal = one.terminal.saving isAvailable stamp ∧
      stamp.isSome = one.panel.console.stamp.isSome ∧
      ∀ layout, ∃ above ground before after below cursor, ∀ saves,
        Screen.Frame.drawIn layout (one.terminal.saving saves stamp) =
          { rows := above ++
              Screen.barRows layout.showsStatus (Screen.Row.bar layout.columns (.behind ground)
                (before ++ Screen.unsavedMark saves ++ after)) ++ below
            cursor } := by
  intro one other
  -- Without a disk and a clock both are the same session that meets the same events.
  -- The start takes the values of the choices over and leaves their availability to the disk.
  have opened : (start settings second logPath).core = (start settings first logPath).core := by
    rw [core_start, core_start, Preferences.inMemory, Preferences.inMemory, values]
  have met : (others.take count).map Event.core = (events.take count).map Event.core := by
    rw [List.map_take, List.map_take, alike]
  have same : other.core = one.core := by
    calc
      other.core
        = (start settings second logPath).core.after ((others.take count).map Event.core) :=
          core_after _ _
      _ = (start settings first logPath).core.after ((events.take count).map Event.core) := by
          rw [opened, met]
      _ = one.core := (core_after _ _).symm
  -- What was sent up to here is found in the run without a disk.
  have sent : observed exchanged (start settings second logPath) (others.take count) =
      observed exchanged (start settings first logPath) (events.take count) := by
    rw [← observed_core (start settings second logPath), opened, met, observed_core]
  obtain ⟨pending, terminal, timed⟩ := eq_saving_of_core same
  refine ⟨pending, sent, _, _, terminal, timed, fun layout => ?_⟩
  -- The frame shows the status bar as it is, and the bar has one place for the mark.
  obtain ⟨ground, before, after, bar⟩ :=
    Screen.statusBar_saving one.terminal other.panel.console.stamp layout.columns
  obtain ⟨above, below, cursor, drawn⟩ :=
    Screen.drawIn_saving one.terminal other.panel.console.stamp layout
  refine ⟨above, ground, before, after, below, cursor, fun saves => ?_⟩
  rw [drawn, bar]

/-- Keys that ask for the health of the service, and its reply, while choices are written or not. -/
def writtenCheck (now : Instant) (written : Bool) : List Event :=
  [.press { key := .char '5' } now written, .press { key := .char 'h' } now written,
    .answer 0 now [.answer 200 "fine"]]

/-- A health check at another time and with a write that fails sends the same request and ends in
the same record, although only the first session still saves its choices. -/
theorem writtenCheck_changes_nothing :
    let opened := start Settings.initial (.load true .missing) none
    let events := writtenCheck (.ofUnixMilliseconds 0) true
    let others := writtenCheck (.ofUnixMilliseconds 1000) false
    let one := opened.after events
    let other := opened.after others
    one.panel.preferences.isAvailable = true ∧ other.panel.preferences.isAvailable = false ∧
      other.panel.preferences.values = one.panel.preferences.values ∧
      other.panel.console.body = one.panel.console.body ∧ one.panel.console.state = .ok ∧
      observed exchanged opened others = observed exchanged opened events := by
  intro opened events others one other
  have values : (Preferences.load true .missing).values =
      (Preferences.load true .missing).values := rfl
  -- The two runs differ in the clock and in whether the choice of the tab was written.
  have alike : others.map Event.core = events.map Event.core := rfl
  obtain ⟨-, sent, isAvailable, stamp, terminal, -, -⟩ :=
    failing_store_changes_nothing Settings.initial values none alike 3
  have panel : other.panel = one.panel.saving isAvailable stamp := congrArg (·.panel) terminal
  refine ⟨by decide +kernel, by decide +kernel, ?_, ?_, by decide +kernel, sent⟩
  · -- Both bodies and both choices are those of the first session.
    rw [panel]
    rfl
  · rw [panel]
    rfl

end Session

end StackPanel

import Mathlib.Data.List.Forall2
import StackPanel.Proofs.Session.ApiKey
import StackPanel.Proofs.Session.SavedFile
import StackPanel.Proofs.Terminal.OtherKey

/-! Two sessions that are opened with different keys and driven alike: the key shows up in nothing
but the header of the key and the choice that is kept. -/

namespace StackPanel.Session

/-- Whether two events are the same key, written or not, or the same end of an action with the same
replies, at whatever times. -/
inductive Event.Alike : Event → Event → Prop where
  | press (press : KeyPress) (now again : Instant) (written : Bool) :
    Alike (.press press now written) (.press press again written)
  | answer (position : Nat) (now again : Instant) (replies : List Reply) :
    Alike (.answer position now replies) (.answer position again replies)

/-- What an event sends and what comes back, without the header of the key. -/
def exchangedWithoutKey (session : Session) (event : Event) : List (Request × Reply) :=
  (session.exchanged event).map fun exchanged => (exchanged.2.1.withoutKey, exchanged.2.2)

/-- Whether two sessions have terminals and started actions that agree but for the key. -/
structure AgreesButKey (first second : Session) : Prop where
  terminal : first.terminal.AgreesButKey second.terminal
  pending : List.Forall₂ PendingAction.AgreesButKey first.pending second.pending

/-- Lists whose members agree have agreeing members at every position, or none. -/
theorem forall₂_getElem? {α β : Type} {agree : α → β → Prop} {first : List α} {second : List β}
    (all : List.Forall₂ agree first second) (position : Nat) :
    first[position]? = none ∧ second[position]? = none ∨
      ∃ one another, first[position]? = some one ∧ second[position]? = some another ∧
        agree one another := by
  -- On the lists, with the position counted down.
  induction all generalizing position with
  | nil => exact .inl ⟨rfl, rfl⟩
  | @cons one another _ _ agrees _ ih =>
    cases position with
    | zero => exact .inr ⟨one, another, rfl, rfl, agrees⟩
    | succ position => exact ih position

variable {first second : Session}

/-- Sessions that are opened with different keys agree. -/
theorem agreesButKey_start (settings : Settings) (apiKeyOverride fileApiKey : Option String)
    (preferences : Preferences) (logPath : Option String) :
    (start settings preferences logPath).AgreesButKey
      (start { settings with apiKeyOverride, fileApiKey } preferences logPath) where
  -- The key is the one part of the settings in which the two panels differ.
  terminal := .of (.withKey _ preferences none rfl) .normal
  pending := .nil

namespace AgreesButKey

/-- Events that are alike lead to sessions that agree. -/
theorem step (agrees : first.AgreesButKey second) {event other : Event}
    (alike : event.Alike other) : (first.step event).AgreesButKey (second.step other) := by
  obtain ⟨terminal, pending⟩ := agrees
  cases alike with
  | press press now again written =>
    -- What a key starts waits behind all others.
    have stepped := terminal.press press now again written
    exact ⟨stepped.terminal, List.rel_append pending stepped.started⟩
  | answer position now again replies =>
    simp only [Session.step, deliver]
    rcases forall₂_getElem? pending position with
      ⟨nothing, none⟩ | ⟨one, another, found, other, actions⟩
    · -- Nothing waits there in either session.
      rw [nothing, none]
      exact ⟨terminal, pending⟩
    · -- The same end is delivered, and the others stay pending.
      have ending : one.ending (outcomeOf replies one) =
          another.ending (outcomeOf replies another) := by
        simp only [PendingAction.ending, outcomeOf, actions.id, actions.title,
          actions.completion replies]
      rw [found, other]
      refine ⟨?_, ?_⟩
      · simp only [ending]
        exact terminal.deliver now again _
      · -- Those before the position and those behind it are taken as they are.
        simp only [List.eraseIdx_eq_take_drop_succ]
        exact List.rel_append (List.forall₂_take position pending)
          (List.forall₂_drop (position + 1) pending)

/-- Events that are alike exchange the same but for the key. -/
theorem exchanged (agrees : first.AgreesButKey second) {event other : Event}
    (alike : event.Alike other) :
    first.exchangedWithoutKey event = second.exchangedWithoutKey other := by
  cases alike with
  -- A key by itself sends nothing.
  | press press now again written => rfl
  | answer position now again replies =>
    simp only [exchangedWithoutKey, Session.exchanged]
    rcases forall₂_getElem? agrees.pending position with
      ⟨nothing, none⟩ | ⟨one, another, found, other, actions⟩
    · -- Without an action nothing is exchanged.
      rw [nothing, none]
    · rw [found, other]
      simpa [Function.comp_def] using actions.exchange.transcript replies

/-- Events that are alike, one after another, lead to sessions that agree and exchange the same but
for the key. -/
theorem after (agrees : first.AgreesButKey second) {events others : List Event}
    (alike : List.Forall₂ Event.Alike events others) :
    (first.after events).AgreesButKey (second.after others) ∧
      observed exchangedWithoutKey first events = observed exchangedWithoutKey second others := by
  induction alike generalizing first second with
  | nil => exact ⟨agrees, rfl⟩
  -- The sessions differ after the first event, so they vary in the induction.
  | cons now _ ih =>
    obtain ⟨atEnd, later⟩ := ih (agrees.step now)
    exact ⟨atEnd, by rw [observed, observed, agrees.exchanged now, later]⟩

end AgreesButKey

/-- Where no key is committed, none is saved. -/
theorem choice?_ne_apiKey {session : Session} {press : KeyPress} {now : Instant} {written : Bool}
    (uncommitted : session.committed .apiKey (.press press now written) = []) (value : String) :
    session.terminal.choice? press ≠ some (.apiKey, value) := by
  unfold committed at uncommitted
  unfold Terminal.choice?
  split
  · next buffer editing =>
    -- The end of an edit of the key would have committed it.
    rw [editing] at uncommitted
    split
    · next ends =>
      have commits : buffer.field = .apiKey ∧ press.finishes .apiKey = true :=
        ⟨ends.1, ends.1 ▸ ends.2⟩
      simp [commits] at uncommitted
    · -- Any other key leaves the edit open, and no choice is made.
      simp
  · -- Commands choose a tab, or whether the key is sent.
    cases Command.ofPress? session.terminal.panel press with
    | none => simp
    | some command => cases command <;> simp [Command.choice?]

namespace AgreesButKey

/-- Events that are alike leave kept choices that differ in the key at most. -/
theorem preferences_step (agrees : first.AgreesButKey second) {event other : Event}
    (alike : event.Alike other)
    (kept : first.panel.preferences.AgreesButKey second.panel.preferences) :
    (first.step event).panel.preferences.AgreesButKey (second.step other).panel.preferences := by
  cases alike with
  | answer position now again replies =>
    -- The end of an action leaves the choices as they are.
    simp only [Session.step, preferences_deliver]
    exact kept
  | press press now again written =>
    simp only [Session.step, preferences_press]
    exact kept.choose (agrees.terminal.choice? press) written

/-- Events that are alike, and of which the first commits no key, leave the same kept choices and
write the same to their file. -/
theorem same_preferences_step (agrees : first.AgreesButKey second) {event other : Event}
    (alike : event.Alike other) (same : second.panel.preferences = first.panel.preferences)
    (uncommitted : first.committed .apiKey event = []) :
    (second.step other).panel.preferences = (first.step event).panel.preferences ∧
      second.writes other = first.writes event := by
  cases alike with
  | answer position now again replies =>
    simp only [Session.step, preferences_deliver]
    exact ⟨same, rfl⟩
  | press press now again written =>
    -- The two could only choose differently by saving a key.
    have choice : second.terminal.choice? press = first.terminal.choice? press := by
      rcases agrees.terminal.choice? press with same | ⟨one, _, chosen, _⟩
      · exact same
      · exact absurd chosen (choice?_ne_apiKey uncommitted one)
    -- From equal choices the same choice leads to equal ones, and to the same text of the file.
    simp only [Session.step, preferences_press, writes_press, choice, same]
    trivial

/-- Events that are alike, one after another, leave kept choices that differ in the key at most, and
that are the same and written alike as long as no key is committed. -/
theorem preferences_after (agrees : first.AgreesButKey second) {events others : List Event}
    (alike : List.Forall₂ Event.Alike events others)
    (kept : first.panel.preferences.AgreesButKey second.panel.preferences) :
    (first.after events).panel.preferences.AgreesButKey (second.after others).panel.preferences ∧
      (second.panel.preferences = first.panel.preferences →
        observed (committed .apiKey) first events = [] →
        (second.after others).panel.preferences = (first.after events).panel.preferences ∧
          observed writes second others = observed writes first events) := by
  induction alike generalizing first second with
  | nil => exact ⟨kept, fun same _ => ⟨same, rfl⟩⟩
  | cons now _ ih =>
    obtain ⟨atEnd, unlessCommitted⟩ := ih (agrees.step now) (agrees.preferences_step now kept)
    refine ⟨atEnd, fun same uncommitted => ?_⟩
    -- Without a committed key neither the first event nor any later one commits it.
    obtain ⟨nothingNow, nothingLater⟩ := List.append_eq_nil_iff.mp uncommitted
    obtain ⟨next, wrote⟩ := agrees.same_preferences_step now same nothingNow
    obtain ⟨sameAtEnd, wroteLater⟩ := unlessCommitted next nothingLater
    exact ⟨sameAtEnd, by rw [observed, observed, wrote, wroteLater]⟩

end AgreesButKey

/-- Sessions that are opened with different keys, and driven by the same keys and the same ends of
actions with the same replies, agree in all but the key: after every step they show the same, and
they have sent the same requests but for the header of the key. Of the kept choices only the key can
differ, and as long as no edit of it is committed the choices are the same and the same is written to
their file. -/
theorem key_reaches_header_and_choice_only (settings : Settings)
    (apiKeyOverride fileApiKey : Option String) (preferences : Preferences)
    (logPath : Option String) {events others : List Event}
    (alike : List.Forall₂ Event.Alike events others) :
    let first := start settings preferences logPath
    let second := start { settings with apiKeyOverride, fileApiKey } preferences logPath
    (first.after events).AgreesButKey (second.after others) ∧
      observed exchangedWithoutKey first events = observed exchangedWithoutKey second others ∧
      (first.after events).panel.preferences.AgreesButKey
        (second.after others).panel.preferences ∧
      (observed (committed .apiKey) first events = [] →
        (second.after others).panel.preferences = (first.after events).panel.preferences ∧
          observed writes second others = observed writes first events) := by
  intro first second
  have agrees := agreesButKey_start settings apiKeyOverride fileApiKey preferences logPath
  obtain ⟨atEnd, exchanged⟩ := agrees.after alike
  -- At the start both have the same choices, none of them made since.
  obtain ⟨kept, unlessCommitted⟩ := agrees.preferences_after alike ⟨rfl, fun _ _ => rfl⟩
  exact ⟨atEnd, exchanged, kept, unlessCommitted rfl⟩

/-- Keys that ask for the health of the service, and its reply, at some time. -/
def healthCheck (now : Instant) : List Event :=
  [.press { key := .char '5' } now true, .press { key := .char 'h' } now true,
    .answer 0 now [.answer 200 "fine"]]

/-- Health checks at two times are alike. -/
theorem healthCheck_alike (now again : Instant) :
    List.Forall₂ Event.Alike (healthCheck now) (healthCheck again) :=
  -- The two runs differ in nothing but the times.
  .cons (.press ..) (.cons (.press ..) (.cons (.answer ..) .nil))

/-- A key that is given to the program goes with the request for the health of the service, and
neither to the panel nor to the file of the choices. -/
theorem healthCheck_agrees :
    let now := Instant.ofUnixMilliseconds 0
    let again := Instant.ofUnixMilliseconds 1000
    let first := start Settings.initial (.load true .missing) none
    let second := start { Settings.initial with apiKeyOverride := some "secret" }
      (.load true .missing) none
    (first.after (healthCheck now)).AgreesButKey (second.after (healthCheck again)) ∧
      observed writes second (healthCheck again) = observed writes first (healthCheck now) ∧
      (observed writes first (healthCheck now)).length = 1 ∧
      (observed exchanged first (healthCheck now)).map (·.2.1.headers) = [[]] ∧
      (observed exchanged second (healthCheck again)).map (·.2.1.headers) =
        [[("X-API-KEY", "secret")]] := by
  intro now again first second
  obtain ⟨agrees, -, -, unlessCommitted⟩ := key_reaches_header_and_choice_only Settings.initial
    (some "secret") none (.load true .missing) none (healthCheck_alike now again)
  refine ⟨agrees, (unlessCommitted (by decide +kernel)).2, ?_, ?_, ?_⟩ <;> decide +kernel

end StackPanel.Session

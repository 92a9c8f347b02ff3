import StackPanel.Proofs.Panel.Store
import StackPanel.Proofs.Session.Run
import StackPanel.Proofs.Terminal.Choice

/-! The file of the kept choices over a session: what is written to it, and what a panel that is
opened with it afterwards starts with. -/

namespace StackPanel

namespace Session

/-- What an event writes to the file of the choices, and whether the write works. -/
def writes (session : Session) : Event → List (String × Bool)
  | .press press now written =>
    ((session.terminal.press .standard now press).text.map (·, written)).toList
  | .answer _ _ _ => []

/-- What is in a file after some writes, of which those that do not work leave it as it is. -/
def fileAfter (found : Reading) (writes : List (String × Bool)) : Reading :=
  writes.foldl (fun file write => if write.2 then .content write.1 else file) found

/-- The choices of a session and what is in their file. -/
def store (session : Session) (file : Reading) : Store :=
  { preferences := session.panel.preferences, file }

/-- The end of an action makes no choice. -/
theorem preferences_deliver (session : Session) (position : Nat) (now : Instant)
    (outcome : PendingAction → ActionOutcome) :
    (session.deliver position now outcome).panel.preferences = session.panel.preferences := by
  unfold Session.deliver
  split
  · rfl
  · show (session.panel.complete _ _).preferences = _
    -- An end fills in the console, the list and the fields, and keeps no choice.
    rw [Panel.complete_eq]

/-- A key leaves the kept choices with the one that it makes. -/
theorem preferences_press (session : Session) (press : KeyPress) (now : Instant)
    (written : Bool) :
    (session.press press now written).panel.preferences =
      (session.panel.preferences.choose (session.terminal.choice? press)).result written :=
  (session.terminal.press_saves now press).2 written

/-- A key writes the kept choices with the one that it makes. -/
theorem writes_press (session : Session) (press : KeyPress) (now : Instant) (written : Bool) :
    session.writes (.press press now written) =
      ((session.panel.preferences.choose (session.terminal.choice? press)).text.map
        (·, written)).toList := by
  -- What the key writes is known from the choice that it saves.
  rw [writes, (session.terminal.press_saves now press).1]

/-- An event leaves the store as it is, or makes a choice whose write it tells about. -/
theorem store_step (session : Session) (file : Reading) (event : Event) :
    (session.step event).store (fileAfter file (session.writes event)) = session.store file ∨
      ∃ key value write,
        (session.step event).store (fileAfter file (session.writes event)) =
          ((session.store file).perform (.set key value write)).2 ∧
        (session.panel.preferences.isAvailable = true →
          (∀ attempt ∈ session.writes event, attempt.2 = true) → write = .done) := by
  cases event with
  | answer position now replies =>
    -- The end of an action writes nothing.
    refine .inl ?_
    simp only [store, writes, fileAfter, List.foldl_nil]
    exact congrArg (Store.mk · file) (session.preferences_deliver position now _)
  | press press now written =>
    have kept := session.preferences_press press now written
    have wrote := session.writes_press press now written
    -- A key without a choice neither changes what is kept nor writes it.
    cases choice : session.terminal.choice? press with
    | none =>
      rw [choice] at kept wrote
      refine .inl ?_
      simp only [store, wrote, fileAfter]
      exact congrArg (Store.mk · file) kept
    | some chosen =>
      obtain ⟨key, value⟩ := chosen
      rw [choice] at kept wrote
      simp only [Preferences.choose] at kept wrote
      -- A write that does not work is one that leaves the file as it was.
      refine .inr ⟨key, value, if written then .done else .failed file, ?_, ?_⟩
      · simp only [store, step, kept, wrote, fileAfter, Store.perform, Store.save]
        cases available : session.panel.preferences.isAvailable <;> cases written <;>
          simp [Preferences.set, available, Saving.of, Write.isDone, Write.leaves]
      · intro available succeed
        have worked : written = true := by simpa [wrote, Preferences.set, available] using succeed
        rw [if_pos worked]

/-- While the file is available, an event whose write works leaves it so, and the choices agree with
it. -/
theorem follows_step {session : Session} {file : Reading}
    (follows : (session.store file).Follows)
    (available : session.panel.preferences.isAvailable = true) {event : Event}
    (succeed : ∀ attempt ∈ session.writes event, attempt.2 = true) :
    ((session.step event).store (fileAfter file (session.writes event))).Follows ∧
      (session.step event).panel.preferences.isAvailable = true := by
  rcases session.store_step file event with same | ⟨key, value, write, same, works⟩
  · -- No choice was made, so everything is as it was.
    exact ⟨same ▸ follows, (congrArg (·.preferences.isAvailable) same).trans available⟩
  · -- The write of the choice has worked, so the file is not given up.
    have done : write = .done := works available succeed
    have still : ((session.store file).perform (.set key value write)).2.preferences.isAvailable =
        true := by
      rw [Store.perform, Store.save_set, done]
      simp [Write.isDone, store, available]
    exact ⟨same ▸ follows.perform _, (congrArg (·.preferences.isAvailable) same).trans still⟩

/-- While the file is available and every write works, it stays so and the choices could be loaded
from it. -/
theorem follows_after {session : Session} {file : Reading}
    (follows : (session.store file).Follows)
    (available : session.panel.preferences.isAvailable = true) {events : List Event}
    (succeed : ∀ attempt ∈ observed writes session events, attempt.2 = true) :
    ((session.after events).store (fileAfter file (observed writes session events))).Follows ∧
      (session.after events).panel.preferences.isAvailable = true := by
  induction events generalizing session file with
  | nil => exact ⟨follows, available⟩
  | cons event rest ih =>
    simp only [observed, List.mem_append] at succeed
    obtain ⟨next, still⟩ := follows_step follows available fun attempt now =>
      succeed attempt (.inl now)
    -- What the first event writes is in the file before the others write to it.
    have moved : fileAfter file (observed writes session (event :: rest)) =
        fileAfter (fileAfter file (session.writes event))
          (observed writes (session.step event) rest) := by
      simp [fileAfter, observed]
    rw [moved]
    exact ih next still fun attempt later => succeed attempt (.inr later)

end Session

/-- A tab is the one of its id. -/
theorem Tab.ofId?_id (tab : Tab) : ofId? tab.id = some tab := by
  -- No two tabs have one id.
  cases tab <;> decide

namespace Panel

variable (settings : Settings) (preferences : Preferences) (key : PreferenceKey) (value : String)
  (written : Bool)

/-- Of all choices only that of a tab makes a difference to the one a new panel starts with. -/
theorem tab_start_set :
    (start settings ((preferences.set key value).result written)).tab =
      if key = .activeTab then (Tab.ofId? value).getD settings.defaultTab
      else (start settings preferences).tab := by
  -- A choice kept under another name is not asked for.
  cases key <;> simp [start, Preferences.restoredTab, Preferences.get?_set]

/-- Of all choices only that of a key makes a difference to the one a new panel starts with, and
none does if a key is given to the program. -/
theorem apiKey_start_set (noOverride : settings.apiKeyOverride = none) :
    (start settings ((preferences.set key value).result written)).inputs.apiKey =
      if key = .apiKey then value else (start settings preferences).inputs.apiKey := by
  -- Of the sources of the key only the kept one has changed.
  cases key <;> simp [start, initialApiKey, Preferences.get?_set, noOverride]

/-- Of all choices only that of sending the key makes a difference to whether a new panel does. -/
theorem sendsApiKey_start_set :
    (start settings ((preferences.set key value).result written)).inputs.sendsApiKey =
      if key = .sendsApiKey then decide (value ≠ "false")
      else (start settings preferences).inputs.sendsApiKey := by
  -- Whatever is kept but the word for no is read as yes.
  cases key with
  | sendsApiKey =>
    simp only [start, Preferences.getBool?, Preferences.get?_set, if_true]
    split <;> simp_all
  | apiKey | activeTab => simp [start, Preferences.getBool?, Preferences.get?_set]

/-- Whether a panel has the tab, the key and the choice of sending it that a new panel would start
with from its kept choices. -/
structure Remembers (panel : Panel) : Prop where
  tab : (start settings panel.preferences).tab = panel.tab
  apiKey : (start settings panel.preferences).inputs.apiKey = panel.inputs.apiKey
  sendsApiKey : (start settings panel.preferences).inputs.sendsApiKey = panel.inputs.sendsApiKey

variable {settings} {panel : Panel}

/-- A panel still remembers what it did if nothing of that has changed. -/
theorem Remembers.of_same (remembers : panel.Remembers settings) {after : Panel}
    (preferences : after.preferences = panel.preferences) (tab : after.tab = panel.tab)
    (apiKey : after.inputs.apiKey = panel.inputs.apiKey)
    (sendsApiKey : after.inputs.sendsApiKey = panel.inputs.sendsApiKey) :
    after.Remembers settings where
  -- Each of the three is read from the kept choices, which are the same.
  tab := by rw [preferences, tab, remembers.tab]
  apiKey := by rw [preferences, apiKey, remembers.apiKey]
  sendsApiKey := by rw [preferences, sendsApiKey, remembers.sendsApiKey]

/-- Whatever a key makes of a panel is remembered, unless a key given to the program would beat the
saved one. -/
theorem Remembers.adjusts (remembers : panel.Remembers settings)
    (noOverride : settings.apiKeyOverride = none) {after : Panel}
    (adjusts : panel.Adjusts after) : after.Remembers settings := by
  cases adjusts with
  | same => exact remembers
  | selects list moved => exact remembers.of_same rfl rfl rfl rfl
  | fills field text written =>
    by_cases isKey : field = .apiKey
    · -- A key is kept as it is typed in.
      subst isKey
      exact {
        tab := (tab_start_set ..).trans remembers.tab
        apiKey := apiKey_start_set settings panel.preferences .apiKey text written noOverride
        sendsApiKey := (sendsApiKey_start_set ..).trans remembers.sendsApiKey }
    · -- Any other field is not kept, and holds none of the three.
      rw [panel.setInput_of_ne isKey]
      refine remembers.of_same rfl rfl ?_ ?_
      all_goals cases field <;> first | contradiction | rfl
  | goes tab written =>
    -- The id under which a tab is kept stands for that tab.
    exact {
      tab := (tab_start_set ..).trans (by rw [if_pos rfl, Tab.ofId?_id]; rfl)
      apiKey := (apiKey_start_set _ _ _ _ _ noOverride).trans remembers.apiKey
      sendsApiKey := (sendsApiKey_start_set ..).trans remembers.sendsApiKey }
  | toggles written =>
    -- The word that is kept is read as the choice that it was written for.
    exact {
      tab := (tab_start_set ..).trans remembers.tab
      apiKey := (apiKey_start_set _ _ _ _ _ noOverride).trans remembers.apiKey
      sendsApiKey := (sendsApiKey_start_set ..).trans (by
        cases sends : panel.inputs.sendsApiKey <;> simp [toggleApiKey, Saving.map, sends]) }

/-- A new panel remembers what it starts with. -/
theorem remembers_start (settings : Settings) (preferences : Preferences) :
    (start settings preferences).Remembers settings := ⟨rfl, rfl, rfl⟩

end Panel

namespace Session

/-- After an event a panel remembers its tab, its key and the choice of sending it if it did
before. -/
theorem remembers_step {settings : Settings} (noOverride : settings.apiKeyOverride = none)
    {session : Session} (remembers : session.panel.Remembers settings) (event : Event) :
    (session.step event).panel.Remembers settings := by
  cases event with
  | press press now written =>
    simp only [step, Session.press, panel]
    rcases session.terminal.press_cases .standard now press written with
      ⟨trigger, -, -, launched⟩ | ⟨-, adjusts⟩
    · -- An action that starts has no part in any of them.
      obtain ⟨_, _, same⟩ := session.terminal.panel_launch now trigger
      rw [launched, same]
      exact remembers.of_same rfl rfl rfl rfl
    · exact remembers.adjusts noOverride adjusts
  | answer position now replies =>
    simp only [step, deliver]
    split
    · exact remembers
    · -- An action that ends changes no fields but those of stack ids.
      simp only [panel, Terminal.deliver]
      rw [Panel.complete_eq, Panel.inputsAfter_eq]
      exact remembers.of_same rfl rfl rfl rfl

/-- After any events a panel remembers its tab, its key and the choice of sending it. -/
theorem remembers_after {settings : Settings} (noOverride : settings.apiKeyOverride = none)
    {session : Session} (remembers : session.panel.Remembers settings) (events : List Event) :
    (session.after events).panel.Remembers settings := by
  induction events generalizing session with
  | nil => exact remembers
  | cons event rest ih => exact ih (remembers_step noOverride remembers event)

/-- While the file of the choices is available and its writes work, a panel that is opened with it
afterwards has the tab, the key and the choice of sending it that the session had at its end; one
that cannot use its file has those of the settings. -/
theorem restart_restores_choices (settings : Settings)
    (noOverride : settings.apiKeyOverride = none) (directoryReady : Bool) (found : Reading)
    (logPath : Option String) (events : List Event)
    (available : (Preferences.load directoryReady found).isAvailable = true)
    (succeed : ∀ attempt ∈
      observed writes (start settings (.load directoryReady found) logPath) events,
      attempt.2 = true) :
    let opened := start settings (.load directoryReady found) logPath
    let ended := (opened.after events).panel
    let restarted := Panel.start settings
      (.load true (fileAfter found (observed writes opened events)))
    (restarted.tab = ended.tab ∧ restarted.inputs.apiKey = ended.inputs.apiKey ∧
      restarted.inputs.sendsApiKey = ended.inputs.sendsApiKey) ∧
    ∀ directoryReady found, (Preferences.load directoryReady found).isAvailable = false →
      let restarted := Panel.start settings (.load directoryReady found)
      restarted.tab = settings.defaultTab ∧ restarted.inputs.sendsApiKey = true ∧
        restarted.inputs.apiKey = settings.fileApiKey.getD "" := by
  intro opened ended restarted
  constructor
  · -- The choices are loaded as they were, and the panel started with what it remembers.
    have follows : (opened.store found).Follows := Store.follows_opened directoryReady found
    obtain ⟨atEnd, stillAvailable⟩ := follows_after follows available succeed
    -- A new panel starts with what it remembers, and no event changes that it does.
    have remembers : ended.Remembers settings :=
      remembers_after noOverride (Panel.remembers_start settings _) events
    have loaded : Preferences.load true (fileAfter found (observed writes opened events)) =
        ended.preferences := atEnd.onDisk stillAvailable
    simp only [restarted, loaded]
    exact ⟨remembers.tab, remembers.apiKey, remembers.sendsApiKey⟩
  · -- Without its file a panel starts from the settings alone.
    intro directoryReady found unavailable restarted
    -- The choices of a file that cannot be used are none.
    simp only [restarted, Preferences.load_of_unavailable unavailable]
    refine ⟨rfl, rfl, ?_⟩
    show Panel.initialApiKey settings .unavailable = _
    rw [Panel.initialApiKey, noOverride]
    rfl

/-- A file of choices with a key and an entry of another program. -/
def foreignFile : Reading :=
  .content "\x7b\"api_key\": \"old\", \"theme\": \"dark\"\x7d"

/-- Keys that add a quote, a backslash and a letter to the key, choose not to send it and go to the
tab of a new stack. -/
def choosingKeys : List Event :=
  [.down, .enter, .char '"', .char '\\', .char 'é', .enter, .char 'a', .char '3'].map fun key =>
    .press { key } (.ofUnixMilliseconds 0) true

/-- What those keys choose is there again after a restart. -/
theorem choosingKeys_restored :
    let opened := start Settings.initial (.load true foreignFile) none
    let restarted := Panel.start Settings.initial
      (.load true (fileAfter foreignFile (observed writes opened choosingKeys)))
    restarted.tab = .create ∧ restarted.inputs.apiKey = "old\"\\é" ∧
      restarted.inputs.sendsApiKey = false := by
  obtain ⟨⟨tab, apiKey, sendsApiKey⟩, -⟩ := restart_restores_choices Settings.initial rfl true
    foreignFile none choosingKeys (by decide) (by decide +kernel)
  -- The session ends with these choices, which the keys made one by one.
  refine ⟨tab.trans ?_, apiKey.trans ?_, sendsApiKey.trans ?_⟩ <;> decide +kernel

end Session

end StackPanel

import StackPanel.Proofs.Action.Headers
import StackPanel.Proofs.Session.Fields

/-! The key of the service is sent exactly as it stood in the fields when an action started, and
what stood there follows from the settings, the saved choices and the keys that were pressed. -/

namespace StackPanel

/-- Whether a new panel sends its key: as it was saved, and if nothing that can be read was saved it
does. -/
def Preferences.startsSending (preferences : Preferences) : Bool :=
  if preferences.get? .sendsApiKey = some "true" then true
  else if preferences.get? .sendsApiKey = some "false" then false
  else true

/-- A new panel takes the choice of sending its key from the saved ones. -/
theorem Panel.sendsApiKey_start (settings : Settings) (preferences : Preferences) :
    (start settings preferences).inputs.sendsApiKey = preferences.startsSending := by
  show (preferences.getBool? .sendsApiKey).getD true = _
  -- A saved choice is read as one of two words, and any other text counts as none.
  unfold Preferences.getBool? Preferences.startsSending
  split
  · next saved => simp [saved]
  · next saved => simp [saved]
  · next notTrue notFalse =>
    rw [if_neg notTrue, if_neg notFalse]
    rfl

/-- The key header of a connection holds the trimmed key if keys are sent and this one is not
blank. -/
theorem Connection.keyHeader_ofSettings (typedUrl origin apiKey : String) (sendsKey : Bool) :
    (ofSettings typedUrl origin apiKey sendsKey).keyHeader =
      if sendsKey = true ∧ Text.blank apiKey = false then [(apiKeyHeader, Text.trim apiKey)]
      else [] := by
  unfold ofSettings keyHeader
  -- A connection holds a key only under the two conditions.
  by_cases sent : sendsKey = true ∧ Text.blank apiKey = false
  · simp [sent.1, sent.2]
  · rw [if_neg sent]
    have held : (sendsKey && !Text.blank apiKey) = false := by
      -- Without either condition no key is held.
      simpa [Bool.and_eq_true] using sent
    simp [held]

/-- No request has two headers of one name. -/
theorem Connection.Makes.nodup {connection : Connection} {request : Request}
    (makes : connection.Makes request) : (request.headers.map Prod.fst).Nodup := by
  -- At most one header carries the key, and at most one names the kind of the body.
  rw [makes.headers, keyHeader]
  cases connection.apiKey <;> by_cases order : request.method = .post <;>
    simp [order, apiKeyHeader]

namespace Session

/-- Whether the key is sent after some events: as it was at the start, changed once for each time
that this was asked for. -/
def sendsKeyAfter (preferences : Preferences) (opened : Session) (events : List Event) : Bool :=
  Bool.not^[(observed toggles opened events).length] preferences.startsSending

/-- The key after some events: the one that was committed last, or else the first that is there of
the one given to the program, the saved one and the one of the settings file. -/
def keyAfter (settings : Settings) (preferences : Preferences) (opened : Session)
    (events : List Event) : String :=
  ([(observed (committed .apiKey) opened events).getLast?, settings.apiKeyOverride,
    preferences.get? .apiKey, settings.fileApiKey].findSome? id).getD ""

/-- In a field other than the stack id only the ends of edits write. -/
theorem written_eq_committed {field : Field} (other : field ≠ .stackId) :
    written field = committed field := by
  funext session event
  -- An action writes ids, and those go into the field of the stack id.
  simp [written, other]

/-- The connection of a session sends the key that its settings, choices and events amount to. -/
theorem keyHeader_after (settings : Settings) (preferences : Preferences)
    (logPath : Option String) (events : List Event) :
    let opened := start settings preferences logPath
    let sends := sendsKeyAfter preferences opened events
    let key := keyAfter settings preferences opened events
    (opened.after events).panel.connection.keyHeader =
      if sends = true ∧ Text.blank key = false then [(apiKeyHeader, Text.trim key)] else [] := by
  intro opened sends key
  have opens : opened.Reachable := .start settings preferences logPath
  -- Both the choice and the key are what the events made of those at the start.
  have flag : (opened.after events).panel.inputs.sendsApiKey = sends := by
    -- The choice is changed once for each time that this was asked for.
    rw [sendsApiKey_after opens events]
    show Bool.not^[_] (Panel.start settings preferences).inputs.sendsApiKey = _
    rw [Panel.sendsApiKey_start]
    rfl
  have held : (opened.after events).panel.inputs.apiKey = key := by
    have latest := get_after opens .apiKey events
    -- No action writes the key, so what was written last was committed.
    rw [written_eq_committed (by simp)] at latest
    refine latest.trans ?_
    -- With nothing committed the field still holds what it held at the start.
    simp only [key, keyAfter]
    cases (observed (committed .apiKey) opened events).getLast? with
    | some text => rfl
    | none =>
      show Panel.initialApiKey settings preferences = _
      unfold Panel.initialApiKey
      -- The first of the three sources that holds a key gives it.
      cases settings.apiKeyOverride <;> cases preferences.get? .apiKey <;>
        cases settings.fileApiKey <;> rfl
  rw [Panel.connection, flag, held]
  exact Connection.keyHeader_ofSettings ..

/-- Whenever an event starts an action, all requests of that action carry the key as it stands then:
trimmed, if keys are sent and it is not blank, and otherwise not at all. They have no header twice,
and a body with the header of its kind exactly if they are orders. Every action that is under way
was started by an event of the session in this way. -/
theorem requests_carry_key_of_start (settings : Settings) (preferences : Preferences)
    (logPath : Option String) (events : List Event) :
    let opened := start settings preferences logPath
    let session := opened.after events
    let sends := sendsKeyAfter preferences opened events
    let key := keyAfter settings preferences opened events
    (∀ event action, session.Begins event action →
      ∀ {σ : Type} (answer : σ → Request → Reply × σ) (state : σ),
      ∀ request ∈ (action.exchange.run answer state).sent,
        request.headers =
          (if sends = true ∧ Text.blank key = false then [("X-API-KEY", Text.trim key)] else []) ++
            (if request.method = .post then [("Content-Type", "application/json")] else []) ∧
        (request.headers.map Prod.fst).Nodup ∧
        (request.body.isSome = true ↔ request.method = .post)) ∧
    ∀ action ∈ session.pending, ∃ earlier event later,
      events = earlier ++ event :: later ∧ (opened.after earlier).Begins event action := by
  intro opened session sends key
  have reached : session.Reachable := (Reachable.start settings preferences logPath).after events
  refine ⟨?_, fun action started => begun_of_mem_pending rfl started⟩
  intro event action ⟨begun, target, context⟩ σ answer state request sent
  -- The action is one of the table, and its connection is that of the session as it was.
  have standard : action.IsStandard := by
    refine (reached.after [event]).standard action ?_
    show action ∈ (session.step event).pending
    -- What an event starts waits in the session after it.
    rw [begun]
    exact List.mem_append_right _ (List.mem_singleton_self action)
  have fits := (Dispatcher.standard_sends standard action.context).of_mem_sent answer state request
    sent
  -- The action was given the connection of the panel from which it started.
  have connection : action.context.connection = session.panel.connection := by
    rw [context]
    rfl
  obtain ⟨makes, -⟩ := fits
  refine ⟨?_, makes.nodup, makes.body⟩
  -- Its requests carry what that connection held.
  rw [makes.headers, connection, keyHeader_after]
  rfl

/-- Choices that were saved when the key was not to be sent. -/
def savedKey : Preferences :=
  { isAvailable := true, values := [("api_key", " saved\t"), ("api_key_enabled", "false")] }

/-- Keys that choose to send the key after all and go to the tab of the service. -/
def sendingKeys : List Event :=
  [.press { key := .char 'a' } (.ofUnixMilliseconds 0) true,
    .press { key := .char '5' } (.ofUnixMilliseconds 1) true]

/-- The saved key beats the one of the settings file, and goes trimmed with the next request once it
is to be sent. -/
theorem savedKey_carried :
    let session := (start { Settings.initial with fileApiKey := some "file" } savedKey none).after
      sendingKeys
    let event := Event.press { key := .char 'h' } (.ofUnixMilliseconds 2) true
    ∃ action, session.Begins event action ∧
      (action.exchange.run Exchange.scripted []).sent.map Request.method = [.get] ∧
      ∀ request ∈ (action.exchange.run Exchange.scripted []).sent,
        request.headers = [("X-API-KEY", "saved")] ++
          (if request.method = .post then [("Content-Type", "application/json")] else []) := by
  intro session event
  refine ⟨_, ⟨rfl, none, rfl⟩, rfl, fun request sent => ?_⟩
  have carried := (requests_carry_key_of_start { Settings.initial with fileApiKey := some "file" }
    savedKey none sendingKeys).1 event _ ⟨rfl, none, rfl⟩ Exchange.scripted [] request sent
  -- The choice was changed once, and the saved key is not blank.
  exact carried.1.trans (congrArg (· ++ _) (by decide +kernel))

end Session

end StackPanel

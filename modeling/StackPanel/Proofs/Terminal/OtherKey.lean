import StackPanel.Proofs.Action.OtherKey
import StackPanel.Proofs.Panel.Complete
import StackPanel.Proofs.Panel.Preferences
import StackPanel.Proofs.Terminal.Choice

/-! Terminals that differ in the key alone: keys mean the same on both, and leave them so. -/

namespace StackPanel

/-- Whether two records of kept choices differ in the key at most. -/
structure Preferences.AgreesButKey (first second : Preferences) : Prop where
  isAvailable : first.isAvailable = second.isAvailable
  others : ∀ name ≠ PreferenceKey.apiKey.name,
    Entries.find? name first.values = Entries.find? name second.values

/-- A choice that is made on both sides, or a key that is saved on both, leaves the choices to differ
in the key at most. -/
theorem Preferences.AgreesButKey.set {first second : Preferences}
    (agrees : first.AgreesButKey second) {key : PreferenceKey} {one another : String}
    (alike : key = .apiKey ∨ one = another) (written : Bool) :
    ((first.set key one).result written).AgreesButKey
      ((second.set key another).result written) where
  isAvailable := by rw [isAvailable_set, isAvailable_set, agrees.isAvailable]
  others := by
    -- What is put down is the same, or stands under the name of the key.
    intro name other
    rw [values_set, values_set, Entries.find?_insert, Entries.find?_insert,
      agrees.others name other]
    split
    · next same =>
      rcases alike with rfl | rfl
      · exact absurd same other
      · rfl
    · -- What stands under any other name was the same before.
      rfl

/-- The same choice, or a key on either side, leaves the choices to differ in the key at most. -/
theorem Preferences.AgreesButKey.choose {first second : Preferences}
    (agrees : first.AgreesButKey second) {one another : Option (PreferenceKey × String)}
    (alike : another = one ∨
      ∃ key other, one = some (.apiKey, key) ∧ another = some (.apiKey, other))
    (written : Bool) :
    ((first.choose one).result written).AgreesButKey ((second.choose another).result written) := by
  rcases alike with rfl | ⟨key, other, rfl, rfl⟩
  · -- The same choice was made on both sides, or none.
    cases another with
    | none => exact agrees
    | some chosen => exact agrees.set (.inr rfl) written
  · exact agrees.set (.inl rfl) written

/-- A panel with another key in its field, other kept choices, and its record of another time. -/
def Panel.withKey (panel : Panel) (apiKey : String) (preferences : Preferences)
    (stamp : Option Instant) : Panel :=
  { panel with
    inputs := { panel.inputs with apiKey }
    preferences
    console := { panel.console with stamp } }

/-- Whether two panels differ in the key, the kept choices and the time of their record at most. -/
inductive Panel.AgreesButKey (first : Panel) : Panel → Prop where
  | withKey (apiKey : String) (preferences : Preferences) (stamp : Option Instant)
    (timed : stamp.isSome = first.console.stamp.isSome) :
    AgreesButKey first (first.withKey apiKey preferences stamp)

/-- Whether two terminals edit no field, the same field with the same text, or both the key. -/
inductive Mode.AgreesButKey : Mode → Mode → Prop where
  | normal : AgreesButKey .normal .normal
  | editing (buffer : EditBuffer) : AgreesButKey (.editing buffer) (.editing buffer)
  | apiKey {first second : EditBuffer} (firstField : first.field = .apiKey)
    (secondField : second.field = .apiKey) : AgreesButKey (.editing first) (.editing second)

/-- Whether two terminals differ in the key, the kept choices and the time of the record at most. -/
inductive Terminal.AgreesButKey (first : Terminal) : Terminal → Prop where
  | of {panel : Panel} {mode : Mode} (panels : first.panel.AgreesButKey panel)
    (modes : first.mode.AgreesButKey mode) : AgreesButKey first { first with panel, mode }

/-- Whether two steps lead to terminals that agree, and start actions that do. -/
structure Terminal.Step.AgreesButKey (first second : Terminal.Step) : Prop where
  terminal : first.terminal.AgreesButKey second.terminal
  staysOpen : first.staysOpen = second.staysOpen
  started : List.Forall₂ PendingAction.AgreesButKey first.started.toList second.started.toList

namespace Panel

/-- A key in its field has no part in the list that is shown. -/
theorem showListing_withKey (panel : Panel) (apiKey : String) (preferences : Preferences)
    (stamp : Option Instant) (listing : Option Listing) :
    ((panel.withKey apiKey preferences stamp).showListing listing).stackList =
      (panel.showListing listing).stackList :=
  panel.stackList_showListing_congr (panel.withKey apiKey preferences stamp) rfl listing

/-- A key in its field has no part in the ids that are passed on. -/
theorem inputsAfter_withKey (panel : Panel) (apiKey : String) (preferences : Preferences)
    (stamp : Option Instant) (created : Option String) :
    (panel.withKey apiKey preferences stamp).inputsAfter created =
      { panel.inputsAfter created with apiKey } := by
  unfold inputsAfter propagateStackId
  split
  · -- Whether the id is passed on depends on the id alone.
    rfl
  · split <;> rfl

namespace AgreesButKey

variable {first second : Panel}

/-- A key stands for the same command on both panels. -/
theorem ofPress? (agrees : first.AgreesButKey second) (press : KeyPress) :
    Command.ofPress? second press = Command.ofPress? first press := by
  cases agrees
  -- What a key stands for depends on the tab and the selection.
  rfl

/-- An action that ends in the same way leaves panels that agree. -/
theorem complete (agrees : first.AgreesButKey second) (now again : Instant)
    (completion : Completion) :
    (first.complete now completion).AgreesButKey (second.complete again completion) := by
  cases agrees with
  | withKey apiKey preferences stamp timed =>
    -- Neither the list nor the ids that are passed on come from the key.
    rw [complete_eq, complete_eq, showListing_withKey, inputsAfter_withKey,
      endRecord_stamp again now]
    refine .withKey apiKey preferences (some again) ?_
    -- A record of an end always has a time.
    exact (congrArg (·.stamp.isSome) (endRecord_stamp now now _ _)).symm

/-- Filling in the same text, or any two keys, leaves panels that agree. -/
theorem setInput (agrees : first.AgreesButKey second) {field : Field} {one another : String}
    (alike : field = .apiKey ∨ one = another) (written : Bool) :
    ((first.setInput field one).result written).AgreesButKey
      ((second.setInput field another).result written) := by
  cases agrees with
  | withKey apiKey preferences stamp timed =>
    -- In the field of the key any two texts may be filled in, in the others only the same.
    rcases alike with rfl | rfl
    · exact .withKey another _ stamp timed
    · by_cases isKey : field = .apiKey
      · subst isKey
        exact .withKey one _ stamp timed
      · rw [setInput_of_ne _ isKey, setInput_of_ne _ isKey]
        cases field
        case apiKey => contradiction
        all_goals exact .withKey apiKey preferences stamp timed

/-- Asking for an action starts the same one on both panels, or none. -/
theorem dispatch (agrees : first.AgreesButKey second) (now again : Instant)
    (trigger : ActionTrigger) :
    let one := Dispatcher.standard.dispatch first now trigger
    let another := Dispatcher.standard.dispatch second again trigger
    one.1.AgreesButKey another.1 ∧
      List.Forall₂ PendingAction.AgreesButKey one.2.toList another.2.toList := by
  cases agrees with
  | withKey apiKey preferences stamp timed =>
    -- A busy panel refuses on both sides, and otherwise the action decides.
    have sameLock : (first.withKey apiKey preferences stamp).isBusy = first.isBusy := rfl
    cases busy : first.isBusy with
    | true =>
      rw [Dispatcher.dispatch_busy _ busy, Dispatcher.dispatch_busy _ (sameLock.trans busy)]
      exact ⟨.withKey apiKey preferences stamp timed, .nil⟩
    | false =>
      by_cases clears : trigger.id = .clearConsole
      · simp only [Dispatcher.dispatch, sameLock, busy, clears, Dispatcher.standard]
        exact ⟨.withKey apiKey preferences none rfl, .nil⟩
      · -- The actions that start hold the two keys, over which their requests agree.
        obtain ⟨calls, handled⟩ := Dispatcher.standard_remote clears
        simp only [Dispatcher.dispatch, sameLock, busy, handled]
        refine ⟨.withKey apiKey preferences (some again) rfl, .cons ⟨rfl, rfl, ?_⟩ .nil⟩
        exact Dispatcher.standard_agrees handled (first.context trigger.target) _

end AgreesButKey

end Panel

/-- A key that does not finish an edit changes the buffer at most, which stays one of the field. -/
theorem Terminal.editPress_stays {terminal : Terminal} {buffer : EditBuffer} {press : KeyPress}
    (editing : terminal.mode = .editing buffer) (stays : press.finishes buffer.field = false)
    (written : Bool) :
    ∃ after, after.field = buffer.field ∧
      (terminal.editPress buffer press).result written =
        { terminal with mode := .editing after } := by
  unfold editPress
  split
  · -- A key that means nothing in an edit leaves the buffer too.
    exact ⟨buffer, rfl, by simp [Saving.of, ← editing]⟩
  · next after pressed =>
    rw [(EditBuffer.finishes_of_press? pressed).1] at stays
    contradiction
  · next after pressed => exact ⟨after, EditBuffer.field_press? pressed, rfl⟩

namespace Terminal.AgreesButKey

variable {first second : Terminal}

/-- The panels of terminals that agree do so. -/
theorem panels (agrees : first.AgreesButKey second) : first.panel.AgreesButKey second.panel := by
  cases agrees with
  | of panels modes => exact panels

/-- What keys are for on terminals that agree does so. -/
theorem modes (agrees : first.AgreesButKey second) : first.mode.AgreesButKey second.mode := by
  cases agrees with
  | of panels modes => exact modes

/-- Asking for an action leaves terminals that agree. -/
theorem launch (agrees : first.AgreesButKey second) (now again : Instant)
    (trigger : ActionTrigger) :
    (first.launch .standard now trigger).AgreesButKey
      (second.launch .standard again trigger) := by
  cases agrees with
  | of panels modes =>
    obtain ⟨changed, started⟩ := panels.dispatch now again trigger
    -- Both steps keep the terminal open.
    exact ⟨.of changed modes, rfl, started⟩

/-- Moving the focus leaves terminals that agree. -/
theorem moveFocus (agrees : first.AgreesButKey second) (down : Bool) :
    (first.moveFocus down).AgreesButKey (second.moveFocus down) := by
  cases agrees with
  | of panels modes =>
    cases panels with
    | withKey apiKey preferences stamp timed =>
      simp only [Terminal.moveFocus, Panel.withKey]
      -- The same tab is active, with the same list or the same number of fields.
      by_cases onList : first.panel.tab = .stackList
      · simp only [onList, if_true]
        exact .of (.withKey apiKey preferences stamp timed) modes
      · by_cases none : first.panel.tab.fields.length = 0
        · simp only [onList, none, if_false, if_true]
          exact .of (.withKey apiKey preferences stamp timed) modes
        · simp only [onList, none, if_false]
          cases down <;> exact .of (.withKey apiKey preferences stamp timed) modes

/-- An edit that starts is one of the same field on both terminals. -/
theorem beginEdit (agrees : first.AgreesButKey second) :
    first.beginEdit.AgreesButKey second.beginEdit := by
  cases agrees with
  | of panels modes =>
    cases panels with
    | withKey apiKey preferences stamp timed =>
      simp only [Terminal.beginEdit, focusedField?, Panel.withKey]
      split
      · next field focused =>
        refine .of (.withKey apiKey preferences stamp timed) ?_
        -- Only the key may have another text.
        cases field
        case apiKey => exact .apiKey rfl rfl
        all_goals exact .editing _
      · -- Where no field has the focus both terminals stay as they are.
        exact .of (.withKey apiKey preferences stamp timed) modes

/-- An action that ends in the same way leaves terminals that agree. -/
theorem deliver (agrees : first.AgreesButKey second) (now again : Instant)
    (completion : Completion) :
    (first.deliver now completion).AgreesButKey (second.deliver again completion) := by
  cases agrees with
  | of panels modes => exact .of (panels.complete now again completion) modes

/-- A terminal that agrees is a step that does and starts nothing. -/
theorem changing (agrees : first.AgreesButKey second) :
    (Step.changing first).AgreesButKey (.changing second) :=
  ⟨agrees, rfl, .nil⟩

/-- A command leads to steps that agree. -/
theorem perform (agrees : first.AgreesButKey second) (now again : Instant) (command : Command)
    (written : Bool) :
    ((first.perform .standard now command).result written).AgreesButKey
      ((second.perform .standard again command).result written) := by
  cases command with
  -- These start no action.
  | focusUp => exact (agrees.moveFocus false).changing
  | focusDown => exact (agrees.moveFocus true).changing
  | edit => exact agrees.beginEdit.changing
  | run trigger => exact agrees.launch now again trigger
  | quit | scroll rows =>
    cases agrees with
    -- Neither the scrolling nor the end of the terminal has a part in the key.
    | of panels modes => exact ⟨.of panels modes, rfl, .nil⟩
  | cycle turn | go tab | toggleApiKey =>
    -- These make a choice, which is put down among the kept ones of either side.
    cases agrees with
    | of panels modes =>
      cases panels with
      | withKey apiKey preferences stamp timed =>
        exact changing (.of (.withKey apiKey _ stamp timed) modes)

/-- An edit that ends with the same text, or that of a key, leaves terminals that agree. -/
theorem commitEdit (agrees : first.AgreesButKey second) {one another : EditBuffer}
    (sameField : one.field = another.field) (alike : one.field = .apiKey ∨ one.text = another.text)
    (written : Bool) :
    ((first.commitEdit one).result written).AgreesButKey
      ((second.commitEdit another).result written) := by
  cases agrees with
  | of panels modes =>
    have filled := panels.setInput alike written
    -- Both edits are of one field, which decides what else is alike.
    rw [Terminal.commitEdit, Terminal.commitEdit, ← sameField]
    exact .of filled .normal

/-- A key for the field that both edit leaves terminals that agree. -/
theorem editPress (agrees : first.AgreesButKey second) {one another : EditBuffer}
    (firstMode : first.mode = .editing one) (secondMode : second.mode = .editing another)
    (press : KeyPress) (written : Bool) :
    ((first.editPress one press).result written).AgreesButKey
      ((second.editPress another press).result written) := by
  have modes : (Mode.editing one).AgreesButKey (.editing another) :=
    firstMode ▸ secondMode ▸ agrees.modes
  cases modes with
  | editing =>
    -- The same buffer takes the key in the same way.
    simp only [Terminal.editPress]
    cases one.press? press with
    | none => exact agrees
    | some result =>
      obtain ⟨after, finished⟩ := result
      cases finished with
      | true => exact agrees.commitEdit rfl (.inr rfl) written
      | false =>
        -- The edit goes on with the same buffer.
        cases agrees with
        | of panels modes => exact .of panels (.editing after)
  | apiKey firstField secondField =>
    -- Whether a key ends an edit depends on the field and not on its text.
    cases finishes : press.finishes .apiKey with
    | true =>
      simp only [Terminal.editPress, EditBuffer.press?_of_finishes (firstField ▸ finishes),
        EditBuffer.press?_of_finishes (secondField ▸ finishes)]
      exact agrees.commitEdit (firstField.trans secondField.symm) (.inl firstField) written
    | false =>
      -- Both edits go on, with whatever texts.
      obtain ⟨one', kept, firstNow⟩ :=
        editPress_stays firstMode (firstField ▸ finishes) written
      obtain ⟨another', otherKept, secondNow⟩ :=
        editPress_stays secondMode (secondField ▸ finishes) written
      rw [firstNow, secondNow]
      cases agrees with
      | of panels modes =>
        exact .of panels (.apiKey (kept.trans firstField) (otherKept.trans secondField))

/-- A key leads to steps that agree. -/
theorem press (agrees : first.AgreesButKey second) (press : KeyPress) (now again : Instant)
    (written : Bool) :
    ((first.press .standard now press).result written).AgreesButKey
      ((second.press .standard again press).result written) := by
  have modes := agrees.modes
  unfold Terminal.press
  cases firstMode : first.mode with
  | normal =>
    cases secondMode : second.mode with
    | normal =>
      -- The key stands for the same command, if for any.
      simp only [agrees.panels.ofPress? press]
      cases Command.ofPress? first.panel press with
      | none => exact agrees.changing
      | some command => exact agrees.perform now again command written
    | editing another =>
      -- Terminals that agree are both in an edit, or neither is.
      rw [firstMode, secondMode] at modes
      cases modes
  | editing one =>
    cases secondMode : second.mode with
    | normal =>
      rw [firstMode, secondMode] at modes
      cases modes
    | editing another => exact (agrees.editPress firstMode secondMode press written).changing

/-- A key makes the same choice on both terminals, or saves a key on both. -/
theorem choice? (agrees : first.AgreesButKey second) (press : KeyPress) :
    second.choice? press = first.choice? press ∨
      ∃ one another, first.choice? press = some (.apiKey, one) ∧
        second.choice? press = some (.apiKey, another) := by
  cases agrees with
  | of panels modes =>
    simp only [Terminal.choice?]
    generalize first.mode = mode at modes
    cases modes with
    | editing buffer => exact .inl rfl
    | apiKey firstField secondField =>
      -- The end of an edit of the key saves what was typed on either side.
      simp only [firstField, secondField, true_and]
      split
      · exact .inr ⟨_, _, rfl, rfl⟩
      · exact .inl rfl
    | normal =>
      -- No command saves a key, and none depends on it.
      cases panels with
      | withKey apiKey preferences stamp timed =>
        left
        rfl

end Terminal.AgreesButKey

end StackPanel

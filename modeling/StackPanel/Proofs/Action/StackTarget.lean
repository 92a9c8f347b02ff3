import StackPanel.Proofs.Action.RemoveItem
import StackPanel.Proofs.Stack.Id
import StackPanel.Proofs.Text.Pieces

/-! Actions on one stack: each asks for that stack alone, and no id can make its request another. -/

namespace StackPanel

/-- The method by which an action asks for one stack and what its path ends in, if it does. -/
def ActionId.onStack? : ActionId → Option (Method × String)
  | .getStack => some (.get, "")
  | .getStatus => some (.get, "/status")
  | .deleteStack | .deleteItem => some (.delete, "")
  | _ => none

/-- Whether two actions on one stack are the same to the service: a stack is removed in one way,
from its card or from the form. -/
def ActionId.SameRequest (first second : ActionId) : Prop :=
  first = second ∨
    first ∈ [.deleteStack, .deleteItem] ∧ second ∈ [.deleteStack, .deleteItem]

/-- Two actions on one stack ask for it in the same way only if they are the same to the service. -/
theorem ActionId.onStack?_eq_iff {first : ActionId} {method : Method} {ending : String}
    (about : first.onStack? = some (method, ending)) (second : ActionId) :
    second.onStack? = some (method, ending) ↔ first.SameRequest second := by
  unfold SameRequest
  cases first
  case getStack | getStatus | deleteStack | deleteItem =>
    -- The three ways to ask differ in the method or in the end of the path.
    obtain ⟨rfl, rfl⟩ : _ ∧ _ := by simpa [onStack?] using about
    cases second <;> simp [onStack?]
  -- The other actions ask for no stack at all.
  all_goals simp [onStack?] at about

namespace Panel

/-- The text that names the stack of an action: the card carries it, or else the form holds it. -/
def stackText (panel : Panel) (trigger : ActionTrigger) : String :=
  if trigger.id = .deleteItem then trigger.target.getD "" else panel.inputs.stackId

/-- The requests of an action on one stack: the one that asks for it, and after the removal of an
item the fetch of the list. -/
def stackRequests (panel : Panel) (action : ActionId) (method : Method) (id ending : String) :
    List Request :=
  panel.stackRequest method id ending ::
    if action = .deleteItem then [panel.fetchRequest] else []

end Panel

namespace ActionCalls

/-- An id that is refused leads to no request. -/
theorem onStack_refused {call : String → Call} {context : ActionContext} {error : InputError}
    (refused : StackId.validate context.stackId = .error error) :
    onStack call context = .done (.refused error) := by
  simp [onStack, refused]

/-- An accepted id leads to the one request of its call. -/
theorem onStack_accepted {call : String → Call} {context : ActionContext} {id : String}
    (accepted : StackId.validate context.stackId = .ok id) :
    onStack call context =
      .send ((call id).request context.connection) fun reply =>
        .done (.single (Call.outcome ((call id).request context.connection) reply)) := by
  -- The call is performed over the connection of the context, so both sides are the same by
  -- definition.
  simp only [onStack, accepted]
  rfl

end ActionCalls

/-- How an action on one stack goes on from the text that names it: a text that is refused ends it
at once, and any other is asked for. -/
structure ActionCalls.AsksFor (calls : ActionContext → Exchange ActionOutcome) (panel : Panel)
    (trigger : ActionTrigger) (method : Method) (ending : String) : Prop where
  refused : ∀ error, StackId.validate (panel.stackText trigger) = .error error →
    calls (panel.context trigger.target) = .done (.refused error)
  accepted : ∀ id, StackId.validate (panel.stackText trigger) = .ok id →
    ∀ {σ : Type} (answer : σ → Request → Reply × σ) (state : σ),
      ((calls (panel.context trigger.target)).run answer state).sent =
        panel.stackRequests trigger.id method id ending

/-- An action whose only call is about the typed stack asks for that stack. -/
theorem ActionCalls.asksFor_onStack {panel : Panel} {trigger : ActionTrigger} {method : Method}
    {ending : String} {call : String → Call}
    (shape : ∀ id, call id = { method, path := stackPath id ++ ending, body := none })
    (typed : trigger.id ≠ .deleteItem) :
    AsksFor (onStack call) panel trigger method ending := by
  -- Only the removal of an item takes its text from the card.
  have text : panel.stackText trigger = panel.inputs.stackId := if_neg typed
  constructor
  · -- A refused text ends the action before its call is built.
    intro error refused
    rw [text] at refused
    exact onStack_refused refused
  · intro id accepted σ answer state
    -- The call is a request below the path of the stack, and it is the only one.
    have sent : (call id).request panel.connection = panel.stackRequest method id ending := by
      rw [shape, panel.request_stack]
    rw [text] at accepted
    have read : StackId.validate (panel.context trigger.target).stackId = .ok id := accepted
    rw [onStack_accepted read]
    simp [Exchange.run, Panel.stackRequests, typed, Panel.context, sent]

/-- The removal of an item asks for the stack that the item carries. -/
theorem ActionCalls.asksFor_removeItem {panel : Panel} {trigger : ActionTrigger}
    (item : trigger.id = .deleteItem) : AsksFor removeItem panel trigger .delete "" := by
  -- The item carries its own text, whatever is typed in the form.
  have text : panel.stackText trigger = trigger.target.getD "" := if_pos item
  constructor
  · intro error refused
    rw [text, validate_getD] at refused
    exact removeItem_refused (panel.context trigger.target) refused
  · intro id accepted σ answer state
    -- An item without a target counts as one with an empty text, in the action as in the statement.
    rw [text, validate_getD] at accepted
    have removal : panel.removalRequest id = panel.stackRequest .delete id "" := by
      simp [Panel.removalRequest, Panel.stackRequest]
    rw [removeItem_accepted accepted]
    simp [Exchange.run, Panel.stackRequests, item, removal]

/-- Every action on one stack asks for it in its own way. -/
theorem Dispatcher.standard_asksFor (panel : Panel) {trigger : ActionTrigger} {method : Method}
    {ending : String} (about : trigger.id.onStack? = some (method, ending)) :
    ∃ calls, standard.handler? trigger.id = some (.remote calls) ∧
      ActionCalls.AsksFor calls panel trigger method ending := by
  -- The table gives each of the four actions its calls, and the request that belongs to it.
  obtain ⟨id, target⟩ := trigger
  cases id
  case getStack =>
    obtain ⟨rfl, rfl⟩ : _ ∧ _ := by simpa [ActionId.onStack?] using about
    exact ⟨_, rfl, ActionCalls.asksFor_onStack (fun id => by simp [Call.get]) (by simp)⟩
  case getStatus =>
    obtain ⟨rfl, rfl⟩ : _ ∧ _ := by simpa [ActionId.onStack?] using about
    exact ⟨_, rfl, ActionCalls.asksFor_onStack (fun id => rfl) (by simp)⟩
  case deleteStack =>
    obtain ⟨rfl, rfl⟩ : _ ∧ _ := by simpa [ActionId.onStack?] using about
    exact ⟨_, rfl, ActionCalls.asksFor_onStack (fun id => by simp [Call.delete]) (by simp)⟩
  case deleteItem =>
    obtain ⟨rfl, rfl⟩ : _ ∧ _ := by simpa [ActionId.onStack?] using about
    exact ⟨_, rfl, ActionCalls.asksFor_removeItem rfl⟩
  -- No other action is about one stack.
  all_goals simp [ActionId.onStack?] at about

/-- Whether a started action is about the stack that its trigger names: if that text is a segment
once it is trimmed it asks for that stack, and otherwise for nothing. -/
structure PendingAction.KeepsTo (action : PendingAction) (panel : Panel) (trigger : ActionTrigger)
    (method : Method) (ending : String) : Prop where
  id : action.id = trigger.id
  context : action.context = panel.context trigger.target
  asks : StackId.IsSegment (Text.trim (panel.stackText trigger)) →
    ∀ {σ : Type} (answer : σ → Request → Reply × σ) (state : σ),
      (action.exchange.run answer state).sent =
        panel.stackRequests trigger.id method (Text.trim (panel.stackText trigger)) ending
  refuses : ¬StackId.IsSegment (Text.trim (panel.stackText trigger)) →
    ∀ {σ : Type} (answer : σ → Request → Reply × σ) (state : σ),
      (action.exchange.run answer state).sent = []

/-- An action on one stack that is dispatched on an idle panel starts and keeps to that stack. -/
theorem Dispatcher.dispatch_onStack {panel : Panel} (idle : panel.isBusy = false) (now : Instant)
    {trigger : ActionTrigger} {method : Method} {ending : String}
    (about : trigger.id.onStack? = some (method, ending)) :
    ∃ action, (standard.dispatch panel now trigger).2 = some action ∧
      action.KeepsTo panel trigger method ending := by
  -- The table knows the action, so an idle panel starts it.
  obtain ⟨calls, handled, asks⟩ := standard_asksFor panel about
  let action : PendingAction :=
    { id := trigger.id, title := trigger.id.title, calls
      context := panel.context trigger.target }
  have started : (standard.dispatch panel now trigger).2 = some action := by
    simp [dispatch, idle, handled, action]
  refine ⟨action, started, { id := rfl, context := rfl, asks := ?_, refuses := ?_ }⟩
  · -- A segment is what the check of ids accepts, so the accepted way to go on applies.
    intro segment σ answer state
    have valid := StackId.validate_eq_ok_iff.mpr ⟨rfl, segment⟩
    exact asks.accepted _ valid answer state
  · -- Any other text is refused, and an action that is refused has no request left to send.
    intro notSegment σ answer state
    obtain ⟨error, invalid⟩ := StackId.validate_refused notSegment
    have ended : action.exchange = .done (.refused error) := asks.refused error invalid
    rw [ended]
    rfl

/-- Where a segment is followed by nothing or by a slash, it reaches up to the first slash. -/
theorem StackId.IsSegment.takeWhile_append {id : String} (segment : IsSegment id) {rest : List Char}
    (ends : rest = [] ∨ ∃ more, rest = '/' :: more) :
    (id.toList ++ rest).takeWhile (· ≠ '/') = id.toList := by
  -- The only place for a slash is behind the segment, where the search for it ends.
  have noSlash : '/' ∉ id.toList := segment.notMem_special (by simp)
  rw [List.takeWhile_append_of_pos (Text.ne_of_notMem noSlash)]
  rcases ends with rfl | ⟨more, rfl⟩ <;> simp

/-- What a path ends in after an id is nothing, or starts with a slash. -/
theorem ActionId.ending_of_onStack? {action : ActionId} {method : Method} {ending : String}
    (about : action.onStack? = some (method, ending)) :
    ending.toList = [] ∨ ∃ more, ending.toList = '/' :: more := by
  -- Only the request for the status goes on behind the id.
  cases action
  case getStatus =>
    obtain ⟨-, rfl⟩ : _ ∧ _ := by simpa [onStack?] using about
    exact .inr ⟨"status".toList, by simp⟩
  case getStack | deleteStack | deleteItem =>
    obtain ⟨-, rfl⟩ : _ ∧ _ := by simpa [onStack?] using about
    exact .inl (by simp)
  all_goals simp [onStack?] at about

/-- Over one base address, the method and the address of a request tell which stack is asked for
and in which way. -/
theorem Panel.stackRequest_inj {panel other : Panel}
    (base : other.connection.baseUrl = panel.connection.baseUrl) {first second : ActionId}
    {method secondMethod : Method} {ending secondEnding : String}
    (about : first.onStack? = some (method, ending))
    (secondAbout : second.onStack? = some (secondMethod, secondEnding)) {id secondId : String}
    (segment : StackId.IsSegment id) (secondSegment : StackId.IsSegment secondId) :
    (panel.stackRequest method id ending).method =
        (other.stackRequest secondMethod secondId secondEnding).method ∧
      (panel.stackRequest method id ending).url =
        (other.stackRequest secondMethod secondId secondEnding).url ↔
    id = secondId ∧ first.SameRequest second := by
  -- Being the same to the service is asking with the same method and the same end.
  rw [← ActionId.onStack?_eq_iff about second, secondAbout]
  simp only [stackRequest, base]
  constructor
  · rintro ⟨rfl, url⟩
    -- Behind the common base both addresses go on with an id up to the first slash.
    have behind : id.toList ++ ending.toList = secondId.toList ++ secondEnding.toList := by
      have chars := congrArg String.toList url
      simpa [String.toList_append, List.append_assoc] using chars
    have ids : id.toList = secondId.toList := by
      have upTo := congrArg (List.takeWhile (· ≠ '/')) behind
      rwa [segment.takeWhile_append (ActionId.ending_of_onStack? about),
        secondSegment.takeWhile_append (ActionId.ending_of_onStack? secondAbout)] at upTo
    have endings : ending.toList = secondEnding.toList := by
      rw [ids] at behind
      exact List.append_cancel_left behind
    rw [String.toList_inj.mp ids, String.toList_inj.mp endings]
    exact ⟨rfl, rfl⟩
  · rintro ⟨rfl, same⟩
    -- The same way of asking means the same method and the same end of the path.
    simp only [Option.some.injEq, Prod.mk.injEq] at same
    obtain ⟨rfl, rfl⟩ := same
    exact ⟨rfl, rfl⟩

section Run

variable {σ : Type} {panel : Panel} (idle : panel.isBusy = false) (now : Instant)
  {trigger : ActionTrigger} {method : Method} {ending : String}
  (about : trigger.id.onStack? = some (method, ending)) (answer : σ → Request → Reply × σ)
  (state : σ)

include idle about

/-- An action on one stack whose id is no segment sends nothing and is recorded as refused. -/
theorem runAction_notSegment
    (refused : ¬StackId.IsSegment (Text.trim (panel.stackText trigger))) :
    let run := Dispatcher.standard.runAction panel now trigger answer state
    run.sent = [] ∧ ∃ message, run.panel =
      { panel with console := .failure now trigger.id.title (.validation message) } := by
  intro run
  obtain ⟨calls, handled, asks⟩ := Dispatcher.standard_asksFor panel about
  -- What is refused ends the action with the refusal, which is the record.
  obtain ⟨error, invalid⟩ := StackId.validate_refused refused
  have carried := Dispatcher.runAction_idle idle trigger handled now answer state
  rw [asks.refused error invalid] at carried
  refine ⟨by simp only [run, carried, Exchange.run], error.message, ?_⟩
  simp only [run, carried, Panel.complete_begin _ _ idle]
  rfl

/-- An action on one stack whose id is a segment asks for that stack. -/
theorem sent_runAction_segment
    (segment : StackId.IsSegment (Text.trim (panel.stackText trigger))) :
    (Dispatcher.standard.runAction panel now trigger answer state).sent =
      panel.stackRequests trigger.id method (Text.trim (panel.stackText trigger)) ending := by
  obtain ⟨calls, handled, asks⟩ := Dispatcher.standard_asksFor panel about
  -- The trimmed text is accepted as it is, so the requests are those of an accepted id.
  have valid := StackId.validate_eq_ok_iff.mpr ⟨rfl, segment⟩
  rw [Dispatcher.runAction_idle idle trigger handled now answer state]
  exact asks.accepted _ valid answer state

/-- If an action on one stack sends anything, then its id is a segment and the first request asks
for that stack. -/
theorem segment_of_head?_sent {request : Request}
    (first : (Dispatcher.standard.runAction panel now trigger answer state).sent.head? =
      some request) :
    StackId.IsSegment (Text.trim (panel.stackText trigger)) ∧
      request = panel.stackRequest method (Text.trim (panel.stackText trigger)) ending := by
  -- Something was sent, and only a segment lets anything be sent.
  by_cases segment : StackId.IsSegment (Text.trim (panel.stackText trigger))
  · rw [sent_runAction_segment idle now about answer state segment, Panel.stackRequests,
      List.head?_cons, Option.some.injEq] at first
    exact ⟨segment, first.symm⟩
  · rw [(runAction_notSegment idle now about answer state segment).1] at first
    simp at first

/-- On an idle panel an action on one stack is refused without a request exactly if the trimmed text
that names the stack is no segment of a path. Otherwise its first request goes to the path of that
stack, and no other follows but the fetch after the removal of an item. Over one base address the
method and the address of that request tell the id and the action, except that a stack is removed in
the same way from its card and from the form. -/
theorem stackAction_keeps_to_its_stack :
    let run := Dispatcher.standard.runAction panel now trigger answer state
    let id := Text.trim (panel.stackText trigger)
    (¬StackId.IsSegment id → run.sent = [] ∧ ∃ message, run.panel =
      { panel with console := .failure now trigger.id.title (.validation message) }) ∧
    (StackId.IsSegment id →
      run.sent = panel.stackRequests trigger.id method id ending ∧
      ∀ c ∈ id.toList, c ∉ ['/', '?', '#', '%'] ∧ Text.isBlank c = false) ∧
    ∀ (other : Panel) (later : Instant) (again : ActionTrigger), other.isBusy = false →
      other.connection.baseUrl = panel.connection.baseUrl → again.id.onStack?.isSome = true →
      ∀ {τ : Type} (reply : τ → Request → Reply × τ) (start : τ),
      let rerun := Dispatcher.standard.runAction other later again reply start
      ∀ first second, run.sent.head? = some first → rerun.sent.head? = some second →
        (first.method = second.method ∧ first.url = second.url ↔
          id = Text.trim (other.stackText again) ∧ trigger.id.SameRequest again.id) := by
  intro run id
  -- The first part is the refusal, and the second the requests of an accepted id.
  refine ⟨runAction_notSegment idle now about answer state, ?_, ?_⟩
  · intro segment
    refine ⟨sent_runAction_segment idle now about answer state segment, ?_⟩
    intro c member
    exact ⟨(segment.plain c member).notSpecial, (segment.plain c member).notBlank⟩
  · -- Both first requests are known, so their addresses can be compared.
    intro other later again otherIdle base asked τ reply start rerun first second sent resent
    obtain ⟨⟨otherMethod, otherEnding⟩, otherAbout⟩ := Option.isSome_iff_exists.mp asked
    obtain ⟨segment, rfl⟩ := segment_of_head?_sent idle now about answer state sent
    obtain ⟨otherSegment, rfl⟩ :=
      segment_of_head?_sent otherIdle later otherAbout reply start resent
    exact Panel.stackRequest_inj base about otherAbout segment otherSegment

end Run

/-- A panel on which an address is typed and a stack id with white space around it. -/
def typedId : Panel :=
  { Panel.start .initial .unavailable with
    inputs := { (Panel.start .initial .unavailable).inputs with
      baseUrl := " http://api:8/v1// "
      stackId := "\tstack-7\n" } }

/-- Asking for the status of a typed stack goes below the typed address, and an id that climbs out
of its place is refused when it comes from a card. -/
theorem typedId_keeps_to_its_stack :
    let asked := Dispatcher.standard.runAction typedId (.ofUnixMilliseconds 0) { id := .getStatus }
      Exchange.scripted [.answer 200 "\x7b\x7d"]
    let climbing := Dispatcher.standard.runAction typedId (.ofUnixMilliseconds 0)
      { id := .deleteItem, target := some "../health" } Exchange.scripted []
    asked.sent.map (fun sent => (sent.method, sent.url)) =
        [(.get, "http://api:8/v1/stacks/stack-7/status")] ∧
      climbing.sent = [] ∧ climbing.panel.console.errorKind = some .validation := by
  intro asked climbing
  -- Both actions are about one stack, and nothing is under way.
  have idle : typedId.isBusy = false := rfl
  have status : ({ id := .getStatus } : ActionTrigger).id.onStack? = some (.get, "/status") := rfl
  have removal : ({ id := .deleteItem, target := some "../health" } : ActionTrigger).id.onStack? =
      some (.delete, "") := rfl
  obtain ⟨-, sent, -⟩ := stackAction_keeps_to_its_stack idle (.ofUnixMilliseconds 0) status
    Exchange.scripted [.answer 200 "\x7b\x7d"]
  obtain ⟨refused, -, -⟩ := stackAction_keeps_to_its_stack idle (.ofUnixMilliseconds 0) removal
    Exchange.scripted []
  -- One of the ids is a segment and the other holds a slash.
  have valid : StackId.validate "stack-7" = .ok "stack-7" := rfl
  have segment : StackId.IsSegment "stack-7" := (StackId.validate_eq_ok_iff.mp valid).2
  have climbs : ¬StackId.IsSegment "../health" := by
    intro segment
    have slash : '/' ∈ "../health".toList := by decide
    exact segment.notMem_special (by simp) slash
  obtain ⟨nothing, message, recorded⟩ := refused climbs
  refine ⟨?_, nothing, ?_⟩
  · exact (congrArg (List.map fun sent => (sent.method, sent.url)) (sent segment).1).trans rfl
  · exact (congrArg (fun panel => panel.console.errorKind) recorded).trans rfl

end StackPanel

import StackPanel.Proofs.Panel.Preferences

/-! The kept choices together with their file: a map that answers from memory, whatever becomes of
its writes, and that the file follows until a write fails. -/

namespace StackPanel

/-- What becomes of a write: the file holds the text, or what the failure leaves there. -/
inductive Write where
  | done
  | failed (left : Reading)

namespace Write

/-- Whether the text was written. -/
def isDone : Write → Bool
  | .done => true
  | .failed _ => false

/-- What is found in the file after the write of a text. -/
def leaves (write : Write) (text : String) : Reading :=
  match write with
  | .done => .content text
  | .failed left => left

end Write

/-- What can be asked of a store; a change comes with what becomes of its write. -/
inductive StoreCall where
  | get (key : PreferenceKey)
  | getBool (key : PreferenceKey)
  | set (key : PreferenceKey) (value : String) (write : Write)
  | setBool (key : PreferenceKey) (value : Bool) (write : Write)

/-- What a store answers: a value, a truth value, or nothing to a change. -/
inductive StoreAnswer where
  | value (found : Option String)
  | truth (found : Option Bool)
  | nothing

/-- The kept choices and what is found in their file. -/
structure Store where
  /-- The choices in memory. -/
  preferences : Preferences
  /-- What is in the file. -/
  file : Reading

namespace Store

/-- A store with what its file holds. -/
def opened (directoryReady : Bool) (found : Reading) : Store :=
  { preferences := .load directoryReady found, file := found }

/-- Takes up new choices, which may first have to be written. -/
def save (store : Store) (saving : Saving Preferences) (write : Write) : Store :=
  match saving.text with
  | none => { store with preferences := saving.result write.isDone }
  | some text => { preferences := saving.result write.isDone, file := write.leaves text }

/-- Answers a call. -/
def perform (store : Store) : StoreCall → StoreAnswer × Store
  | .get key => (.value (store.preferences.get? key), store)
  | .getBool key => (.truth (store.preferences.getBool? key), store)
  | .set key value write => (.nothing, store.save (store.preferences.set key value) write)
  | .setBool key value write => (.nothing, store.save (store.preferences.setBool key value) write)

/-- The store after some calls. -/
def after (store : Store) (calls : List StoreCall) : Store :=
  calls.foldl (fun store call => (store.perform call).2) store

end Store

/-- The truth value that a text stands for. -/
def truth? (text : String) : Option Bool :=
  if text = "true" then some true else if text = "false" then some false else none

namespace StoreCall

/-- The choice that a call makes. -/
def choice? : StoreCall → Option (PreferenceKey × String)
  | .get _ | .getBool _ => none
  | .set key value _ => some (key, value)
  | .setBool key value _ => some (key, if value then "true" else "false")

/-- Whether a call makes no choice, or one whose write is done. -/
def isDone : StoreCall → Bool
  | .get _ | .getBool _ => true
  | .set _ _ write | .setBool _ _ write => write.isDone

/-- The answer of a map from choices to their values. -/
def answerFrom (value? : PreferenceKey → Option String) : StoreCall → StoreAnswer
  | .get key => .value (value? key)
  | .getBool key => .truth ((value? key).bind truth?)
  | .set .. | .setBool .. => .nothing

end StoreCall

/-- The value that was last chosen for a key. -/
def lastChoice? (key : PreferenceKey) (calls : List StoreCall) : Option String :=
  (calls.filterMap StoreCall.choice?).reverse.lookup key

namespace Store

/-- What a store is after some calls, for what it was loaded with. -/
structure IsBestEffort (loaded : Preferences) (calls : List StoreCall) (store : Store) : Prop where
  /-- Every call is answered with the last choice, or else with what was loaded. -/
  answers : ∀ call, (store.perform call).1 =
    call.answerFrom fun key => (lastChoice? key calls).or (loaded.get? key)
  /-- What was loaded under names that are none of the choices is kept. -/
  keeps : ∀ name, (∀ key : PreferenceKey, key.name ≠ name) →
    Entries.find? name store.preferences.values = Entries.find? name loaded.values
  /-- The first write that fails makes the file unavailable. -/
  available : store.preferences.isAvailable = (loaded.isAvailable && calls.all StoreCall.isDone)
  /-- While the file is available, the choices would be loaded from it. -/
  onDisk : store.preferences.isAvailable = true →
    Preferences.load true store.file = store.preferences
  /-- While the file is available, the first choice and every later one is written to it. -/
  written : store.preferences.isAvailable = true → (∃ call ∈ calls, call.choice? ≠ none) →
    ∃ text, store.file = .content text ∧
      Json.IsTextObject text.toList store.preferences.values
  /-- Once the file is unavailable, it stays so and is left alone. -/
  leftAlone : store.preferences.isAvailable = false → ∀ more,
    (store.after more).preferences.isAvailable = false ∧ (store.after more).file = store.file

/-- A call leaves the store as it is, or it makes a choice. -/
theorem perform_cases (store : Store) (call : StoreCall) :
    (call.choice? = none ∧ call.isDone = true ∧ (store.perform call).2 = store) ∨
      ∃ key value write, call.choice? = some (key, value) ∧ call.isDone = write.isDone ∧
        (store.perform call).2 = store.save (store.preferences.set key value) write := by
  -- A question leaves everything, and a truth value is put down as a word.
  cases call with
  | get key | getBool key => exact .inl ⟨rfl, rfl, rfl⟩
  | set key value write => exact .inr ⟨key, value, write, rfl, rfl, rfl⟩
  | setBool key value write => exact .inr ⟨key, _, write, rfl, rfl, rfl⟩

/-- A choice counts in memory, whatever becomes of its write, and is written while the file is
available. -/
theorem save_set (store : Store) (key : PreferenceKey) (value : String) (write : Write) :
    store.save (store.preferences.set key value) write =
      let values := Entries.insert key.name value store.preferences.values
      { preferences := { isAvailable := store.preferences.isAvailable && write.isDone, values }
        file := if store.preferences.isAvailable then write.leaves (Preferences.textOf values)
          else store.file } := by
  -- Whether anything is written depends on the file alone.
  obtain ⟨⟨isAvailable, values⟩, file⟩ := store
  cases isAvailable <;> rfl

/-- The last of some calls comes after all others. -/
theorem after_append_singleton (store : Store) (calls : List StoreCall) (call : StoreCall) :
    store.after (calls ++ [call]) = ((store.after calls).perform call).2 := by
  -- The calls are folded from the left, so the last one is folded in at the end.
  simp [after]

end Store

/-- A call that makes no choice is none that could be the last for a key. -/
theorem lastChoice?_append_of_none {call : StoreCall} (none : call.choice? = none)
    (key : PreferenceKey) (calls : List StoreCall) :
    lastChoice? key (calls ++ [call]) = lastChoice? key calls := by
  -- It adds nothing to the list of choices.
  simp [lastChoice?, none]

/-- A choice is the last for its key, and for no other. -/
theorem lastChoice?_append_of_some {call : StoreCall} {chosen : PreferenceKey} {value : String}
    (choice : call.choice? = some (chosen, value)) (key : PreferenceKey)
    (calls : List StoreCall) :
    lastChoice? key (calls ++ [call]) =
      if key = chosen then some value else lastChoice? key calls := by
  -- Looking from the end, it is the first that is met.
  by_cases same : key = chosen
  · simp [lastChoice?, choice, same]
  · simp [lastChoice?, choice, same, List.lookup_cons, beq_eq_false_iff_ne.mpr same]

namespace Store

/-- A choice that was loaded is found unless another was made since. -/
theorem find?_after (store : Store) (key : PreferenceKey) (calls : List StoreCall) :
    Entries.find? key.name (store.after calls).preferences.values =
      (lastChoice? key calls).or (Entries.find? key.name store.preferences.values) := by
  -- The calls are taken up from the front, so that the last one is met in the step.
  induction calls using List.reverseRecOn with
  | nil => rfl
  | append_singleton calls call ih =>
    rw [after_append_singleton]
    rcases (store.after calls).perform_cases call with
      ⟨none, _, same⟩ | ⟨chosen, value, write, choice, _, same⟩
    · rw [same, ih, lastChoice?_append_of_none none]
    · rw [same, save_set, lastChoice?_append_of_some choice, Entries.find?_insert, ih]
      -- Two choices have the same name only if they are the same.
      by_cases chosen_eq : key = chosen
      · simp [chosen_eq]
      · simp [chosen_eq, PreferenceKey.name_injective.eq_iff]

/-- What stands under a name that is none of the choices stays there. -/
theorem find?_after_of_unknown (store : Store) {name : String}
    (unknown : ∀ key : PreferenceKey, key.name ≠ name) (calls : List StoreCall) :
    Entries.find? name (store.after calls).preferences.values =
      Entries.find? name store.preferences.values := by
  -- Again from the front, since the name has to be unknown at each step alone.
  induction calls using List.reverseRecOn with
  | nil => rfl
  | append_singleton calls call ih =>
    rw [after_append_singleton]
    rcases (store.after calls).perform_cases call with
      ⟨_, _, same⟩ | ⟨chosen, value, write, _, _, same⟩
    · -- A question leaves the values as they were.
      rw [same, ih]
    · -- A choice is put under a name of its own, which is another.
      rw [same, save_set, Entries.find?_insert, if_neg (unknown chosen).symm, ih]

/-- The file is available as long as no write has failed. -/
theorem isAvailable_after (store : Store) (calls : List StoreCall) :
    (store.after calls).preferences.isAvailable =
      (store.preferences.isAvailable && calls.all StoreCall.isDone) := by
  -- Each call can only take the file out of use, by a write that fails.
  induction calls using List.reverseRecOn with
  | nil => simp [after]
  | append_singleton calls call ih =>
    rw [after_append_singleton, List.all_append, ← Bool.and_assoc, ← ih]
    rcases (store.after calls).perform_cases call with
      ⟨_, done, same⟩ | ⟨_, _, write, _, done, same⟩
    · -- A call without a write counts as done.
      simp [same, done]
    · simp [same, save_set, done]

/-- Whether a store agrees with its file as far as that is available. -/
structure Follows (store : Store) : Prop where
  /-- The choices stand in the order of their names. -/
  sorted : Entries.Sorted store.preferences.values
  /-- They would be loaded from the file. -/
  onDisk : store.preferences.isAvailable = true →
    Preferences.load true store.file = store.preferences

/-- A store agrees with the file that it is opened with. -/
theorem follows_opened (directoryReady : Bool) (found : Reading) :
    (opened directoryReady found).Follows where
  sorted := Preferences.sorted_load directoryReady found
  onDisk := by
    intro available
    -- A file that is available was read as it is.
    obtain ⟨rfl, _⟩ := Preferences.isAvailable_load_iff.mp available
    rfl

/-- A store agrees with its file after a call if it did before. -/
theorem Follows.perform {store : Store} (follows : store.Follows) (call : StoreCall) :
    (store.perform call).2.Follows := by
  rcases store.perform_cases call with ⟨_, _, same⟩ | ⟨key, value, write, _, _, same⟩
  · rwa [same]
  · rw [same, save_set]
    have sorted := follows.sorted.insert key.name value
    refine ⟨sorted, ?_⟩
    intro available
    obtain ⟨before, done⟩ := Bool.and_eq_true_iff.mp available
    -- The write was done, and what it wrote is read back.
    cases write with
    | done => simp [before, Write.leaves, Write.isDone, Preferences.load,
        Preferences.ofText_textOf sorted]
    | failed left => contradiction

/-- A store agrees with its file after all calls. -/
theorem Follows.after {store : Store} (follows : store.Follows) (calls : List StoreCall) :
    (store.after calls).Follows := by
  induction calls using List.reverseRecOn with
  | nil => exact follows
  | append_singleton calls call ih =>
    rw [after_append_singleton]
    exact ih.perform call

/-- A choice that was made while the file stayed available is written there with all others. -/
theorem written_after (store : Store) {calls : List StoreCall}
    (available : (store.after calls).preferences.isAvailable = true)
    (chosen : ∃ call ∈ calls, call.choice? ≠ none) :
    (store.after calls).file =
      .content (Preferences.textOf (store.after calls).preferences.values) := by
  induction calls using List.reverseRecOn with
  | nil => simp at chosen
  | append_singleton calls call ih =>
    rw [after_append_singleton] at available ⊢
    rcases (store.after calls).perform_cases call with
      ⟨none, _, same⟩ | ⟨_, _, write, _, _, same⟩
    · -- The choice was made before, and nothing has changed since.
      obtain ⟨made, member, choice⟩ := chosen
      rw [same] at available ⊢
      rcases List.mem_append.mp member with earlier | last
      · exact ih available ⟨made, earlier, choice⟩
      · exact absurd (List.mem_singleton.mp last ▸ none) choice
    · -- The last choice writes all others with it.
      rw [same, save_set] at available ⊢
      obtain ⟨before, done⟩ := Bool.and_eq_true_iff.mp available
      cases write with
      | done => simp [before, Write.leaves]
      | failed left => contradiction

/-- A file that is not available is never written. -/
theorem file_after_of_unavailable {store : Store}
    (unavailable : store.preferences.isAvailable = false) (calls : List StoreCall) :
    (store.after calls).preferences.isAvailable = false ∧
      (store.after calls).file = store.file := by
  -- Each call finds the file unavailable, and leaves it so.
  induction calls using List.reverseRecOn with
  | nil => exact ⟨unavailable, rfl⟩
  | append_singleton calls call ih =>
    obtain ⟨still, untouched⟩ := ih
    rw [after_append_singleton]
    rcases (store.after calls).perform_cases call with ⟨_, _, same⟩ | ⟨_, _, _, _, _, same⟩
    · rw [same]
      exact ⟨still, untouched⟩
    · -- A choice counts in memory alone.
      simp [same, save_set, still, untouched]

/-- A call is answered from the choices in memory. -/
theorem perform_answer (store : Store) (call : StoreCall) :
    (store.perform call).1 = call.answerFrom store.preferences.get? := by
  cases call with
  | getBool key =>
    -- A truth value is asked for as its word.
    simp only [perform, StoreCall.answerFrom, Preferences.getBool?]
    cases store.preferences.get? key with
    | none => rfl
    | some text =>
      simp only [Option.bind_some, truth?]
      split <;> simp_all
  | get key | set key value write | setBool key value write => rfl

/-- A store is a map that answers from memory, whatever becomes of its writes, and that the file
follows until the first write fails; what it is opened with are the fields of the file, if that
holds one object of texts, the last where a name repeats. -/
theorem isBestEffort_after (directoryReady : Bool) (found : Reading) (calls : List StoreCall) :
    IsBestEffort (.load directoryReady found) calls
        ((opened directoryReady found).after calls) ∧
      ((Preferences.load directoryReady found).isAvailable = true ↔
        directoryReady = true ∧ found ≠ .unreadable) ∧
      ∀ bytes : ByteArray,
        let loaded := Preferences.load true (.ofBytes bytes)
        (∀ text pairs, bytes = String.toUTF8 text → Json.IsTextObject text.toList pairs →
          ∀ name, Entries.find? name loaded.values = Entries.find? name pairs.reverse) ∧
        ((∀ text pairs, bytes = String.toUTF8 text → ¬Json.IsTextObject text.toList pairs) →
          loaded.values = []) := by
  refine ⟨?_, Preferences.isAvailable_load_iff, ?_⟩
  · exact {
      answers := by
        intro call
        rw [perform_answer]
        -- Two maps with the same values give the same answers.
        congr 1
        funext key
        exact find?_after (opened directoryReady found) key calls
      keeps := fun name unknown => find?_after_of_unknown _ unknown calls
      available := isAvailable_after _ calls
      onDisk := ((follows_opened directoryReady found).after calls).onDisk
      written := fun available chosen =>
        ⟨_, written_after _ available chosen, Preferences.isTextObject_textOf _⟩
      leftAlone := fun unavailable more => file_after_of_unavailable unavailable more }
  · intro bytes
    constructor
    · -- Bytes of an object are found as its text, and the text as its fields.
      intro text pairs same isObject name
      -- The file is loaded from its text alone.
      rw [Reading.ofBytes_eq_content_iff.mpr same]
      simp [Preferences.load, Preferences.ofText_of_isTextObject isObject, Entries.find?_ofPairs]
    · -- Of any other bytes nothing is taken, whether they are a text or not.
      intro noObject
      cases found : Reading.ofBytes bytes with
      | content text =>
        have same := Reading.ofBytes_eq_content_iff.mp found
        exact Preferences.ofText_of_not_isTextObject fun pairs => noObject text pairs same
      | missing | unreadable | garbled => rfl

end Store

end StackPanel

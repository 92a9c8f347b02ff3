import Mathlib.Data.List.Forall2
import StackPanel.Proofs.Stack.Summary

/-! Which values are lists of stacks, and that each of their items is read by itself and in its
place. -/

namespace StackPanel.StackSummary

/-- Whether a value lists fields under their names: an object does, and an array that is not longer
than a summary has fields lists them in their order. -/
inductive ListsFields : Json → List (String × Json) → Prop where
  | object (fields : List (String × Json)) : ListsFields (.object fields) fields
  | array (items : List Json) (short : items.length ≤ 13) :
    ListsFields (.array items) (fieldNames.zip items)

/-- Whether a value describes a stack: each of its fields fits its name. -/
def Describes (value : Json) : Prop :=
  ∃ fields, ListsFields value fields ∧ ∀ field ∈ fields, Fits field.1 field.2

/-- Whether a value is an array of items, or null and so without items. -/
inductive IsItems : Json → List Json → Prop where
  | null : IsItems .null []
  | array (items : List Json) : IsItems (.array items) items

/-- Whether a body lists items: an object under the key of stacks, where no such key is no item, and
an array as its only element, where no element is no item. -/
inductive ListsItems : Json → List Json → Prop where
  | absent {fields : List (String × Json)} (absent : Entries.find? "stacks" fields = none) :
    ListsItems (.object fields) []
  | field {fields : List (String × Json)} {value : Json} {items : List Json}
    (found : Entries.find? "stacks" fields = some value) (holds : IsItems value items) :
    ListsItems (.object fields) items
  | empty : ListsItems (.array []) []
  | element {value : Json} {items : List Json} (holds : IsItems value items) :
    ListsItems (.array [value]) items

/-- The body that lists some summaries. -/
def bodyOf (summaries : List StackSummary) : Json :=
  .object [("stacks", .array (summaries.map toJson))]

/-- The last value that stands under a name among fields, as far as there is one. -/
def lastValue? (fields : List (String × Json)) (name : String) : Option Json :=
  Entries.find? name fields.reverse

/-- A value is read as a summary exactly if it describes a stack. What was read can be read again
from its fields, of which each holds what stands last under its name or what an empty summary
holds. -/
theorem ofJson_cases (value : Json) :
    (∃ fields summary, ListsFields value fields ∧ (∀ field ∈ fields, Fits field.1 field.2) ∧
      ofJson value = .ok summary ∧ summary.IsReadable ∧
      summary.entries = ({} : StackSummary).entries.map fun entry =>
        (entry.1, (lastValue? fields entry.1).getD entry.2)) ∨
    ¬Describes value ∧ ∃ error, ofJson value = .error error := by
  -- An empty summary has neither ports nor numbers.
  have empty : ({} : StackSummary).IsReadable := ⟨by simp, by simp, by simp⟩
  cases value with
  | object fields =>
    -- An object hands its fields to the reader as they are.
    rcases foldlM_readField {} fields with ⟨fit, summary, read, holds, keeps⟩ | ⟨refused, failed⟩
    · exact .inl ⟨fields, summary, .object fields, fit, read, keeps empty, holds⟩
    · refine .inr ⟨?_, failed⟩
      rintro ⟨_, ⟨⟩, fit⟩
      exact refused fit
  | array items =>
    rcases foldlM_readField {} (fieldNames.zip items) with
      ⟨fit, summary, read, holds, keeps⟩ | ⟨refused, error, failed⟩
    · by_cases short : items.length ≤ 13
      · have notLong : ¬fieldNames.length < items.length := Nat.not_lt.mpr short
        refine .inl ⟨_, summary, .array items short, fit, ?_, keeps empty, holds⟩
        simp only [ofJson, read, notLong]
        rfl
      · -- The fields are read first, and what is left over is refused after that.
        have long : fieldNames.length < items.length := Nat.lt_of_not_le short
        refine .inr ⟨?_, .tooManyElements items.length, ?_⟩
        · rintro ⟨_, ⟨⟩, _⟩
          contradiction
        · simp only [ofJson, read, long]
          rfl
    · refine .inr ⟨?_, error, by simp only [ofJson, failed]; rfl⟩
      rintro ⟨_, ⟨⟩, fit⟩
      exact refused fit
  -- No other kind of value lists any fields.
  | null | bool | integer | real | text => exact .inr ⟨by rintro ⟨_, ⟨⟩, _⟩, _, rfl⟩

/-- A value describes a stack exactly if it is read as a summary. -/
theorem describes_iff {value : Json} : Describes value ↔ ∃ summary, ofJson value = .ok summary := by
  -- The three ways to be refused are those in which no fields are listed or one does not fit.
  rcases ofJson_cases value with ⟨fields, summary, lists, fit, read, -⟩ | ⟨refused, error, failed⟩
  · exact ⟨fun _ => ⟨summary, read⟩, fun _ => ⟨fields, lists, fit⟩⟩
  · simp [refused, failed]

/-- What was read as a summary can be read again from its fields. -/
theorem isReadable_of_ofJson {value : Json} {summary : StackSummary}
    (read : ofJson value = .ok summary) : summary.IsReadable := by
  -- The summary is the only one that can have been read.
  rcases ofJson_cases value with ⟨_, _, _, _, same, readable, _⟩ | ⟨_, _, failed⟩
  · exact Except.ok.inj (same.symm.trans read) ▸ readable
  · simp [failed] at read

/-- Items are read all together exactly if each of them is, in their order. -/
theorem mapM_ofJson_eq_ok_iff {items : List Json} {summaries : List StackSummary} :
    items.mapM ofJson = .ok summaries ↔
      List.Forall₂ (fun item summary => ofJson item = .ok summary) items summaries := by
  -- The list of summaries varies, since each item brings its own.
  induction items generalizing summaries with
  | nil =>
    simp only [List.mapM_nil, List.forall₂_nil_left_iff]
    exact ⟨fun same => (Except.ok.inj same).symm, fun same => same ▸ rfl⟩
  | cons item rest ih =>
    simp only [List.mapM_cons, List.forall₂_cons_left_iff, ← ih]
    -- The first item is read before the others, and any failure is that of the whole.
    cases ofJson item with
    | error error => simp [bind, Except.bind]
    | ok summary =>
      cases rest.mapM ofJson with
      | error error => simp [bind, Except.bind]
      | ok others => simp [bind, Except.bind, pure, Except.pure, eq_comm]

/-- The list of a value is that of its items, read one by one. -/
theorem listOfItems_eq_ok_iff {value : Json} {summaries : List StackSummary} :
    listOfItems value = .ok summaries ↔ ∃ items, IsItems value items ∧
      List.Forall₂ (fun item summary => ofJson item = .ok summary) items summaries := by
  cases value with
  -- Null is read as a list without items.
  | null =>
    constructor
    · intro read
      exact ⟨[], .null, (Except.ok.inj read) ▸ .nil⟩
    · rintro ⟨_, ⟨⟩, ⟨⟩⟩
      rfl
  | array items =>
    simp only [listOfItems, mapM_ofJson_eq_ok_iff]
    constructor
    · exact fun read => ⟨items, .array items, read⟩
    · rintro ⟨_, ⟨⟩, read⟩
      exact read
  -- Neither texts nor numbers nor objects are items of a list.
  | bool | integer | real | text | object =>
    simp only [listOfItems, reduceCtorEq, false_iff]
    rintro ⟨_, ⟨⟩, _⟩

/-- The list of a body is that of the items that it lists, read one by one. -/
theorem listOfJson_eq_ok_iff {body : Json} {summaries : List StackSummary} :
    listOfJson body = .ok summaries ↔ ∃ items, ListsItems body items ∧
      List.Forall₂ (fun item summary => ofJson item = .ok summary) items summaries := by
  cases body with
  | object fields =>
    -- Only the key of stacks counts in an object.
    simp only [listOfJson]
    cases found : Entries.find? "stacks" fields with
    | none =>
      constructor
      · -- Without the key there are no items, and the object of none lists none.
        intro read
        exact ⟨[], .absent found, (Except.ok.inj read) ▸ .nil⟩
      · rintro ⟨_, ⟨_⟩ | ⟨other, _⟩, read⟩
        · cases read
          rfl
        · simp [found] at other
    | some value =>
      simp only [listOfItems_eq_ok_iff]
      constructor
      · rintro ⟨items, holds, read⟩
        exact ⟨items, .field found holds, read⟩
      · -- The key has one value, so the items are those of that value.
        rintro ⟨items, ⟨absent⟩ | ⟨other, holds⟩, read⟩
        · simp [found] at absent
        · obtain rfl := Option.some.inj (found.symm.trans other)
          exact ⟨items, holds, read⟩
  | array values =>
    -- The array has no element, one, or too many.
    match values with
    | [] =>
      constructor
      · intro read
        exact ⟨[], .empty, (Except.ok.inj read) ▸ .nil⟩
      · rintro ⟨_, ⟨⟩, ⟨⟩⟩
        rfl
    | [value] =>
      -- What comes back for the only element is handed on, whether it is a list or a failure.
      have alone : listOfJson (.array [value]) = listOfItems value := by
        simp only [listOfJson]
        cases listOfItems value <;> rfl
      rw [alone, listOfItems_eq_ok_iff]
      constructor
      · rintro ⟨items, holds, read⟩
        exact ⟨items, .element holds, read⟩
      · rintro ⟨items, lists, read⟩
        cases lists with
        | element holds => exact ⟨items, holds, read⟩
    | value :: second :: rest =>
      -- A second element is refused, be the first one read or not.
      have refused : ∃ error, listOfJson (.array (value :: second :: rest)) = .error error := by
        simp only [listOfJson]
        cases listOfItems value with
        | error error => exact ⟨error, rfl⟩
        | ok summaries => exact ⟨.tooManyElements _, rfl⟩
      obtain ⟨error, refused⟩ := refused
      simp only [refused, reduceCtorEq, false_iff]
      rintro ⟨_, ⟨⟩, _⟩
  | null | bool | integer | real | text =>
    simp only [listOfJson, reduceCtorEq, false_iff]
    rintro ⟨_, ⟨⟩, _⟩

/-- A value is an array of items in one way at most. -/
theorem IsItems.unique {value : Json} {first second : List Json} (one : IsItems value first)
    (other : IsItems value second) : first = second := by
  cases one <;> cases other <;> rfl

/-- A body lists its items in one way at most. -/
theorem ListsItems.unique {body : Json} {first second : List Json} (one : ListsItems body first)
    (other : ListsItems body second) : first = second := by
  -- The shape of the body decides the case, in which the items are those of one value.
  cases one with
  | absent absent =>
    cases other with
    | absent => rfl
    | field found => simp [absent] at found
  | field found holds =>
    cases other with
    | absent absent => simp [absent] at found
    | field again held => exact (Option.some.inj (found.symm.trans again) ▸ holds).unique held
  | empty => cases other; rfl
  | element holds =>
    cases other with
    | element held => exact holds.unique held

/-- The list of a body whose items are known is theirs, read one by one. -/
theorem ListsItems.listOfJson_eq_ok_iff {body : Json} {items : List Json}
    (lists : ListsItems body items) {summaries : List StackSummary} :
    listOfJson body = .ok summaries ↔
      List.Forall₂ (fun item summary => ofJson item = .ok summary) items summaries := by
  rw [StackSummary.listOfJson_eq_ok_iff]
  constructor
  · -- The items of a body are the same however they were found.
    rintro ⟨_, others, read⟩
    exact lists.unique others ▸ read
  · exact fun read => ⟨items, lists, read⟩

/-- Two lists of items are read one after the other. -/
theorem forall₂_append_iff {first second : List Json} {summaries : List StackSummary} :
    List.Forall₂ (fun item summary => ofJson item = .ok summary) (first ++ second) summaries ↔
      ∃ before after,
        List.Forall₂ (fun item summary => ofJson item = .ok summary) first before ∧
        List.Forall₂ (fun item summary => ofJson item = .ok summary) second after ∧
        summaries = before ++ after := by
  -- The first list is taken apart, and its summaries with it.
  induction first generalizing summaries with
  | nil => simp
  | cons item rest ih =>
    simp only [List.cons_append, List.forall₂_cons_left_iff, ih]
    constructor
    · -- The first summary goes with the first item, on both sides.
      rintro ⟨summary, _, read, ⟨before, after, others, following, rfl⟩, rfl⟩
      exact ⟨summary :: before, after, ⟨summary, before, read, others, rfl⟩, following, rfl⟩
    · rintro ⟨_, after, ⟨summary, before, read, others, rfl⟩, following, rfl⟩
      exact ⟨summary, _, read, ⟨before, after, others, following, rfl⟩, rfl⟩

/-- All items are read exactly if each of them describes a stack. -/
theorem exists_forall₂_iff {items : List Json} :
    (∃ summaries, List.Forall₂ (fun item summary => ofJson item = .ok summary) items summaries) ↔
      ∀ item ∈ items, Describes item := by
  induction items with
  | nil => simp
  | cons item rest ih =>
    -- The first item describes a stack if it is read, and the others do so by induction.
    rw [List.forall_mem_cons, ← ih, describes_iff]
    constructor
    · rintro ⟨_, read⟩
      obtain ⟨summary, summaries, first, others, -⟩ := List.forall₂_cons_left_iff.mp read
      exact ⟨⟨summary, first⟩, summaries, others⟩
    · rintro ⟨⟨summary, first⟩, summaries, others⟩
      exact ⟨summary :: summaries, .cons first others⟩

/-- Every summary that was read comes from one of the items. -/
theorem exists_item_of_mem {items : List Json} {summaries : List StackSummary}
    (read : List.Forall₂ (fun item summary => ofJson item = .ok summary) items summaries)
    {summary : StackSummary} (member : summary ∈ summaries) :
    ∃ item, ofJson item = .ok summary := by
  -- The summary is the one of the first item, or it comes from the items after it.
  induction read with
  | nil => simp at member
  | cons came others ih =>
    rcases List.mem_cons.mp member with rfl | later
    · exact ⟨_, came⟩
    · exact ih later

/-- A body is read as a list of stacks exactly if it lists items and each item describes a stack,
and then there is one summary for each item, in order. What a summary holds are the last values
under the names of its fields. Two lists one after the other are read exactly if both are, as the
lists of both. What was read is read again, with all fields written down, as the same list. -/
theorem list_decodes_item_by_item :
    (∀ body, (∃ summaries, listOfJson body = .ok summaries) ↔
      ∃ items, ListsItems body items ∧ ∀ item ∈ items, Describes item) ∧
    (∀ value, (∃ summary, ofJson value = .ok summary) ↔ Describes value) ∧
    (∀ body summaries, listOfJson body = .ok summaries ↔ ∃ items, ListsItems body items ∧
      List.Forall₂ (fun item summary => ofJson item = .ok summary) items summaries) ∧
    (∀ value summary, ofJson value = .ok summary → ∃ fields, ListsFields value fields ∧
      summary.entries = ({} : StackSummary).entries.map fun entry =>
        (entry.1, (lastValue? fields entry.1).getD entry.2)) ∧
    (∀ first second both firstItems secondItems, ListsItems first firstItems →
      ListsItems second secondItems → ListsItems both (firstItems ++ secondItems) →
      ∀ summaries, listOfJson both = .ok summaries ↔ ∃ before after,
        listOfJson first = .ok before ∧ listOfJson second = .ok after ∧
        summaries = before ++ after) ∧
    (∀ body summaries, listOfJson body = .ok summaries →
      listOfJson (bodyOf summaries) = .ok summaries) := by
  refine ⟨?_, fun value => describes_iff.symm, fun body summaries => listOfJson_eq_ok_iff, ?_, ?_,
    ?_⟩
  · -- Items are read all together exactly if each describes a stack.
    intro body
    simp only [listOfJson_eq_ok_iff, ← exists_forall₂_iff]
    constructor
    · rintro ⟨summaries, items, lists, read⟩
      exact ⟨items, lists, summaries, read⟩
    · rintro ⟨items, lists, summaries, read⟩
      exact ⟨summaries, items, lists, read⟩
  · -- The second way to be read is to be refused, which the summary rules out.
    intro value summary read
    rcases ofJson_cases value with ⟨fields, _, lists, _, same, _, holds⟩ | ⟨_, _, failed⟩
    · exact ⟨fields, lists, Except.ok.inj (same.symm.trans read) ▸ holds⟩
    · simp [failed] at read
  · -- Both bodies and the whole are read by their items alone, and those are split at their border.
    intro first second both firstItems secondItems firstLists secondLists bothLists summaries
    rw [bothLists.listOfJson_eq_ok_iff, forall₂_append_iff]
    simp only [firstLists.listOfJson_eq_ok_iff, secondLists.listOfJson_eq_ok_iff]
  · intro body summaries read
    obtain ⟨items, -, read⟩ := listOfJson_eq_ok_iff.mp read
    have written : ListsItems (bodyOf summaries) (summaries.map toJson) :=
      .field rfl (.array _)
    rw [written.listOfJson_eq_ok_iff, List.forall₂_map_left_iff, List.forall₂_same]
    -- Each summary comes from an item, and so it can be read again.
    intro summary member
    obtain ⟨item, came⟩ := exists_item_of_mem read member
    exact ofJson_toJson (isReadable_of_ofJson came)

/-- An item in the form of an array leaves out its last fields, and one in the form of an object may
have fields that no summary has. Both are read side by side, in a body of either form. -/
theorem twoForms_decode_item_by_item :
    let first : Json := .array [.text "a", .null, .text "pod"]
    let second : Json := .object [("requested_cpu_milli", .integer 250), ("unknown", .bool true)]
    let summaries : List StackSummary :=
      [{ stackId := "a", podId := some "pod" }, { cpuMilli := some 250 }]
    let whole : Json := .array [.array [first, second]]
    listOfJson whole = .ok summaries ∧ listOfJson (bodyOf summaries) = .ok summaries ∧
      ∃ fields, ListsFields second fields ∧ ({ cpuMilli := some 250 } : StackSummary).entries =
        ({} : StackSummary).entries.map fun entry =>
          (entry.1, (lastValue? fields entry.1).getD entry.2) := by
  intro first second summaries whole
  -- The items are one array and one object, so that both forms are needed.
  obtain ⟨-, -, -, holds, joined, again⟩ := list_decodes_item_by_item
  have firstLists : ListsItems (.object [("stacks", .array [first])]) [first] :=
    .field rfl (.array _)
  have secondLists : ListsItems (.array [.array [second]]) [second] := .element (.array _)
  have wholeLists : ListsItems whole ([first] ++ [second]) := .element (.array _)
  have read : listOfJson whole = .ok summaries :=
    (joined _ _ _ _ _ firstLists secondLists wholeLists summaries).mpr
      ⟨[_], [_], rfl, rfl, rfl⟩
  exact ⟨read, again whole summaries read, holds second _ rfl⟩

end StackPanel.StackSummary

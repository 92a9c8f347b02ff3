import StackPanel.Panel.Preferences
import StackPanel.Proofs.Json.TextObject

/-! What the file of the kept choices says, and what is found in it when it is opened. -/

namespace StackPanel

/-- A text is found where its bytes are, and nowhere else. -/
theorem Reading.ofBytes_eq_content_iff {bytes : ByteArray} {text : String} :
    Reading.ofBytes bytes = .content text ↔ bytes = text.toUTF8 := by
  unfold Reading.ofBytes String.fromUTF8?
  -- Every text has bytes of its own that are valid, and valid bytes make one text.
  by_cases valid : bytes.IsValidUTF8
  · rw [dif_pos valid]
    constructor
    · intro same
      exact congrArg String.toUTF8 (Reading.content.inj same)
    · rintro rfl
      rfl
  · rw [dif_neg valid]
    constructor
    · exact nofun
    · rintro rfl
      exact absurd text.isValidUTF8 valid

/-- No two choices have one name. -/
theorem PreferenceKey.name_injective : Function.Injective PreferenceKey.name := by
  intro first second same
  -- Three names are compared with each other.
  cases first <;> cases second <;> first | rfl | exact absurd same (by decide)

namespace Preferences

open Json (IsTextObject textFields)

/-- All values of fields are texts exactly if the fields are made from texts. -/
theorem mapM_textField?_eq_some_iff {fields : List (String × Json)}
    {pairs : List (String × String)} :
    fields.mapM textField? = some pairs ↔ fields = textFields pairs := by
  -- The pairs vary, since the induction takes the first one away with its field.
  induction fields generalizing pairs with
  | nil => cases pairs <;> simp [textFields]
  | cons field fields ih =>
    -- The first value is a text and the first pair holds it, and so on with the others.
    obtain ⟨name, value⟩ := field
    simp only [List.mapM_cons, Option.bind_eq_bind, Option.bind_eq_some_iff, ih, textFields]
    cases pairs <;> cases value <;> simp [textField?, Json.text?, Prod.ext_iff, and_comm]

/-- The fields of a file are texts exactly if it holds one object of them. -/
theorem textFields?_eq_some_iff {text : String} {pairs : List (String × String)} :
    (Json.parseFields? text).bind (·.mapM textField?) = some pairs ↔
      IsTextObject text.toList pairs := by
  -- An object of texts is what the reader of objects reads with texts as its values.
  rw [← Json.parseFields?_eq_textFields_iff]
  simp [Option.bind_eq_some_iff, mapM_textField?_eq_some_iff]

/-- An object of texts is read as the entries of its fields. -/
theorem ofText_of_isTextObject {text : String} {pairs : List (String × String)}
    (isObject : IsTextObject text.toList pairs) : ofText text = Entries.ofPairs pairs := by
  rw [ofText, textFields?_eq_some_iff.mpr isObject]
  rfl

/-- Any other text is read as no entries. -/
theorem ofText_of_not_isTextObject {text : String}
    (noObject : ∀ pairs, ¬IsTextObject text.toList pairs) : ofText text = [] := by
  -- Whatever was found would make the text an object of texts.
  have none : (Json.parseFields? text).bind (·.mapM textField?) = none :=
    Option.eq_none_iff_forall_ne_some.mpr fun pairs found =>
      noObject pairs (textFields?_eq_some_iff.mp found)
  rw [ofText, none]
  rfl

/-- Entries are written as one object of texts. -/
theorem isTextObject_textOf (values : List (String × String)) :
    IsTextObject (textOf values).toList values :=
  Json.isTextObject_indented values

/-- Entries in the order of their keys are read as they were written. -/
theorem ofText_textOf {values : List (String × String)} (sorted : Entries.Sorted values) :
    ofText (textOf values) = values := by
  -- Writing and reading leaves the pairs, which are in order already.
  rw [ofText_of_isTextObject (isTextObject_textOf values)]
  exact Entries.ofPairs_of_sorted sorted

/-- What is loaded stands in the order of the keys. -/
theorem sorted_load (directoryReady : Bool) (found : Reading) :
    Entries.Sorted (load directoryReady found).values := by
  -- Only a text is taken up, and its fields are put in order.
  unfold load
  split
  · exact .nil
  · cases found with
    | content text => exact Entries.sorted_ofPairs _
    | _ => exact .nil

/-- The file is in use unless its directory is missing or it cannot be read. -/
theorem isAvailable_load_iff {directoryReady : Bool} {found : Reading} :
    (load directoryReady found).isAvailable = true ↔
      directoryReady = true ∧ found ≠ .unreadable := by
  -- A missing and a garbled file can be written, and an unreadable one cannot.
  cases directoryReady <;> cases found <;> simp [load, unavailable]

/-- Without a file in use nothing is loaded. -/
theorem load_of_unavailable {directoryReady : Bool} {found : Reading}
    (isUnavailable : (load directoryReady found).isAvailable = false) :
    load directoryReady found = unavailable := by
  -- Where nothing is in use nothing was taken up either.
  cases directoryReady <;> cases found <;> first | rfl | contradiction

/-- A choice is put under its name, whatever becomes of its write. -/
theorem values_set (preferences : Preferences) (key : PreferenceKey) (value : String)
    (written : Bool) :
    ((preferences.set key value).result written).values =
      Entries.insert key.name value preferences.values := by
  -- The entries are the same on both sides, with a file in use or without.
  unfold set
  split <;> rfl

/-- The file stays in use if it was and the choice is written. -/
theorem isAvailable_set (preferences : Preferences) (key : PreferenceKey) (value : String)
    (written : Bool) :
    ((preferences.set key value).result written).isAvailable =
      (preferences.isAvailable && written) := by
  unfold set
  -- Once the file is out of use it stays so.
  cases available : preferences.isAvailable <;> rfl

/-- A choice that is made counts for its key, and for no other. -/
theorem get?_set (preferences : Preferences) (key other : PreferenceKey) (value : String)
    (written : Bool) :
    ((preferences.set key value).result written).get? other =
      if other = key then some value else preferences.get? other := by
  -- Two keys have different names, so only the entry of the key is replaced.
  rw [get?, values_set, Entries.find?_insert]
  simp [PreferenceKey.name_injective.eq_iff, get?]

end Preferences

end StackPanel

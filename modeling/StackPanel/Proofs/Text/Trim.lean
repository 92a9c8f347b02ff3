import Mathlib.Data.List.DropRight
import StackPanel.Text.Blank

/-! Trimming removes what it names and nothing more. -/

namespace StackPanel.Text

/-- Dropping a matching end twice is dropping it once. -/
@[simp] theorem dropEndWhile_dropEndWhile (drops : Char → Bool) (cs : List Char) :
    dropEndWhile drops (dropEndWhile drops cs) = dropEndWhile drops cs :=
  -- This is the library's dropping from the right.
  List.rdropWhile_idempotent drops cs

/-- Dropping a matching end leaves nothing only of characters that all match. -/
theorem dropEndWhile_eq_nil_iff {drops : Char → Bool} {cs : List Char} :
    dropEndWhile drops cs = [] ↔ ∀ c ∈ cs, drops c = true :=
  List.rdropWhile_eq_nil_iff

/-- An ending that matches entirely is dropped, whatever stands before it. -/
theorem dropEndWhile_append {drops : Char → Bool} {ending : List Char} (cs : List Char)
    (each : ∀ c ∈ ending, drops c = true) :
    dropEndWhile drops (cs ++ ending) = dropEndWhile drops cs := by
  have reversed : ∀ c ∈ ending.reverse, drops c = true := fun c member =>
    each c (List.mem_reverse.mp member)
  rw [dropEndWhile, List.reverse_append, List.dropWhile_append_of_pos reversed, dropEndWhile]

/-- A last character that does not match keeps all of a text. -/
theorem dropEndWhile_eq_self {drops : Char → Bool} {cs : List Char}
    (stays : ∀ c ∈ cs.getLast?, drops c = false) : dropEndWhile drops cs = cs := by
  refine List.rdropWhile_eq_self_iff.mpr fun nonempty matching => ?_
  have kept := stays _ (List.getLast?_eq_some_getLast nonempty)
  simp [kept] at matching

/-- What dropping a matching end leaves does not end in a match. -/
theorem not_drops_of_getLast? {drops : Char → Bool} {cs : List Char} {c : Char}
    (last : c ∈ (dropEndWhile drops cs).getLast?) : drops c = false := by
  obtain ⟨nonempty, rfl⟩ := List.mem_getLast?_eq_getLast last
  have kept : ¬drops ((dropEndWhile drops cs).getLast nonempty) = true :=
    List.rdropWhile_last_not drops cs nonempty
  simpa using kept

/-- Trimming leaves nothing only of white space. -/
theorem trimChars_eq_nil_iff {cs : List Char} :
    trimChars cs = [] ↔ ∀ c ∈ cs, isBlank c = true := by
  -- If anything stayed after the front was dropped, its first character would not be blank.
  unfold trimChars
  rw [dropEndWhile_eq_nil_iff, ← List.dropWhile_eq_nil_iff (p := isBlank) (l := cs)]
  constructor
  · -- What the end loses entirely must have been blank from its first character on.
    intro blank
    by_contra kept
    have first := List.head_dropWhile_not isBlank kept
    rw [blank _ (List.head_mem kept)] at first
    contradiction
  · -- Where the front took everything, the end has nothing to look at.
    intro nothing
    simp [nothing]

/-- Text without white space stays as it is when it is trimmed. -/
theorem trimChars_of_plain {cs : List Char} (plain : ∀ c ∈ cs, isBlank c = false) :
    trimChars cs = cs := by
  -- Neither end has a character to drop, unless there is none at all.
  have front : cs.dropWhile isBlank = cs := by
    rw [List.dropWhile_eq_self_iff]
    intro nonempty blank
    simp [plain _ (List.getElem_mem nonempty)] at blank
  have back : cs.rdropWhile isBlank = cs := by
    rw [List.rdropWhile_eq_self_iff]
    intro nonempty blank
    simp [plain _ (List.getLast_mem nonempty)] at blank
  unfold trimChars
  rw [front]
  exact back

/-- Whether a text neither starts nor ends in white space. -/
structure IsTrimmed (cs : List Char) : Prop where
  first : ∀ c ∈ cs.head?, isBlank c = false
  last : ∀ c ∈ cs.getLast?, isBlank c = false

/-- White space around a text that has none at its own ends is all that trimming removes. -/
theorem trimChars_surrounded {before after cs : List Char} (trimmed : IsTrimmed cs)
    (front : ∀ c ∈ before, isBlank c = true) (back : ∀ c ∈ after, isBlank c = true) :
    trimChars (before ++ (cs ++ after)) = cs := by
  unfold trimChars
  rw [List.dropWhile_append_of_pos front]
  cases cs with
  | nil =>
    -- Nothing but white space is left, and the front takes all of it.
    have nothing : after.dropWhile isBlank = [] := List.dropWhile_eq_nil_iff.mpr back
    rw [List.nil_append, nothing]
    rfl
  | cons c rest =>
    have stays : (c :: rest ++ after).dropWhile isBlank = c :: rest ++ after := by
      simp [trimmed.first c rfl]
    rw [stays, dropEndWhile_append _ back, dropEndWhile_eq_self trimmed.last]

/-- What trimming leaves has white space around it in the text, and none at its own ends. -/
theorem exists_trimChars_surrounded (cs : List Char) :
    ∃ before after, cs = before ++ (trimChars cs ++ after) ∧ IsTrimmed (trimChars cs) ∧
      (∀ c ∈ before, isBlank c = true) ∧ ∀ c ∈ after, isBlank c = true := by
  refine ⟨cs.takeWhile isBlank, (cs.dropWhile isBlank).rtakeWhile isBlank, ?_, ⟨?_, ?_⟩, ?_, ?_⟩
  · have back : trimChars cs ++ (cs.dropWhile isBlank).rtakeWhile isBlank = cs.dropWhile isBlank :=
      List.rdropWhile_append_rtakeWhile
    rw [back, List.takeWhile_append_dropWhile]
  · -- What is left starts where the white space in front ends.
    intro c first
    obtain ⟨rest, starts⟩ : trimChars cs <+: cs.dropWhile isBlank := List.rdropWhile_prefix _ _
    have before : (cs.dropWhile isBlank).head? = some c := by
      rw [← starts, List.head?_append, first]
      rfl
    obtain ⟨others, shape⟩ := List.head?_eq_some_iff.mp before
    have kept := List.head_dropWhile_not isBlank (l := cs) (by simp [shape])
    simpa [shape] using kept
  · exact fun c last => not_drops_of_getLast? last
  · exact fun c member => List.mem_takeWhile_imp member
  · exact fun c member => List.mem_rtakeWhile_imp member

/-- White space in front is trimmed away. -/
theorem trimChars_cons {c : Char} (blank : isBlank c = true) (cs : List Char) :
    trimChars (c :: cs) = trimChars cs := by
  unfold trimChars
  rw [List.dropWhile_cons_of_pos blank]

/-- Trimmed text is empty exactly when the text is blank. -/
theorem isEmpty_trim (text : String) : (trim text).isEmpty = blank text := by
  -- Both sides say that every character is white space.
  have same : (trim text).isEmpty = true ↔ blank text = true := by
    rw [trim, String.isEmpty_iff, String.ofList_eq_empty_iff, trimChars_eq_nil_iff, blank,
      List.all_eq_true]
  exact Bool.eq_iff_iff.mpr same

end StackPanel.Text

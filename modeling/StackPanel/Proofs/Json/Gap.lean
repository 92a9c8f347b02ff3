import Mathlib.Data.List.DropRight
import StackPanel.Json.Printer
import StackPanel.Json.Reader

/-! Gaps between the tokens of a JSON text: readers skip them, whatever they are made of. -/

namespace StackPanel.Json

/-- Whether characters may all stand between tokens. -/
def IsGap (cs : List Char) : Prop :=
  ∀ c ∈ cs, isGap c = true

/-- Nothing at all is a gap. -/
theorem isGap_nil : IsGap [] := by
  simp [IsGap]

/-- A space is a gap. -/
theorem isGap_space : IsGap [' '] := by
  simp [IsGap, isGap]

/-- The start of a line is a gap. -/
theorem isGap_newLine (depth : Nat) : IsGap (newLine depth) := by
  intro c member
  -- After the line feed come spaces alone.
  rcases List.mem_cons.mp member with rfl | space
  · rfl
  · rw [List.eq_of_mem_replicate space]
    rfl

/-- Text that starts with anything but a gap has none to skip. -/
theorem skipGap_cons {c : Char} (solid : isGap c = false) (rest : List Char) :
    skipGap (c :: rest) = c :: rest := by
  simp [skipGap, solid]

/-- A gap in front of a text is skipped with the one that the text starts with. -/
theorem skipGap_gap {gap : List Char} (between : IsGap gap) (cs : List Char) :
    skipGap (gap ++ cs) = skipGap cs :=
  List.dropWhile_append_of_pos between

/-- A gap in front of anything else is skipped. -/
theorem skipGap_append {gap : List Char} (between : IsGap gap) {c : Char}
    (solid : isGap c = false) (rest : List Char) : skipGap (gap ++ c :: rest) = c :: rest := by
  -- The gap goes first, and then there is none left in front.
  rw [skipGap_gap between]
  exact skipGap_cons solid rest

/-- What is left after a gap stood behind it. -/
theorem exists_gap (cs : List Char) : ∃ gap, IsGap gap ∧ cs = gap ++ skipGap cs :=
  -- The gap is what stands in front as long as it can be one.
  ⟨cs.takeWhile isGap, fun _ => List.mem_takeWhile_imp, List.takeWhile_append_dropWhile.symm⟩

/-- Nothing is left after a gap and nothing else. -/
theorem skipGap_eq_nil_iff {cs : List Char} : skipGap cs = [] ↔ IsGap cs :=
  List.dropWhile_eq_nil_iff

/-- Skipping a second time skips nothing. -/
theorem skipGap_skipGap (cs : List Char) : skipGap (skipGap cs) = skipGap cs :=
  List.dropWhile_idempotent _ _

/-- A gap in front of a value makes no difference. -/
theorem readValue?_skipGap (fuel depth : Nat) (cs : List Char) :
    readValue? fuel depth (skipGap cs) = readValue? fuel depth cs := by
  -- The reader skips gaps itself, and there is none to skip twice.
  -- Without fuel both readings fail alike.
  cases fuel with
  | zero => simp [readValue?]
  | succ fuel => rw [readValue?, readValue?, skipGap_skipGap]

/-- A gap in front of items makes no difference. -/
theorem readItems?_skipGap (fuel depth : Nat) (cs : List Char) :
    readItems? fuel depth (skipGap cs) = readItems? fuel depth cs := by
  -- Items start with a value, for which it makes no difference.
  cases fuel with
  | zero => simp [readItems?]
  | succ fuel => rw [readItems?, readItems?, readValue?_skipGap]

/-- A gap in front of fields makes no difference. -/
theorem readFields?_skipGap (fuel depth : Nat) (cs : List Char) :
    readFields? fuel depth (skipGap cs) = readFields? fuel depth cs := by
  -- Fields start by skipping a gap, and skipping twice is skipping once.
  cases fuel with
  | zero => simp [readFields?]
  | succ fuel => rw [readFields?, readFields?, skipGap_skipGap]

end StackPanel.Json

import Mathlib.Data.List.TakeWhile
import StackPanel.Text.Pieces

/-! Cutting a text at a separator, at each one, at the first or at the last. -/

namespace StackPanel.Text

variable {separator : Char}

/-- The pieces between separators are those of the library. -/
theorem splitOn_eq (separator : Char) (cs : List Char) :
    splitOn separator cs = cs.splitOn separator := by
  induction cs with
  | nil => rfl
  | cons c rest ih =>
    rw [List.splitOn, List.splitOnP_cons_eq_if_modifyHead, ← List.splitOn, splitOn, ih]
    by_cases same : c = separator
    · simp [same]
    · -- Any other character goes to the piece that follows it, and there always is one.
      have filled : rest.splitOn separator ≠ [] := List.splitOnP_ne_nil _ _
      obtain ⟨piece, pieces, split⟩ := List.exists_cons_of_ne_nil filled
      simp [same, split]

/-- All characters of a text without a separator are others. -/
theorem ne_of_notMem {cs : List Char} (absent : separator ∉ cs) :
    ∀ c ∈ cs, decide (c ≠ separator) = true := by
  intro c member
  -- A separator among the characters would be one of the text.
  simpa using fun same : c = separator => absent (same ▸ member)

/-- The characters other than a separator end at the first one. -/
theorem takeWhile_ne_append {before after : List Char} (absent : separator ∉ before) :
    (before ++ separator :: after).takeWhile (· ≠ separator) = before := by
  -- The separator stops the taking, and all before it is taken.
  rw [List.takeWhile_append_of_pos (ne_of_notMem absent)]
  simp

/-- Without a separator there is nothing after it. -/
theorem splitOnce_of_notMem {cs : List Char} (absent : separator ∉ cs) :
    splitOnce separator cs = (cs, none) := by
  -- Nothing stops the dropping, so nothing is left.
  have nothing : cs.dropWhile (· ≠ separator) = [] :=
    List.dropWhile_eq_nil_iff.mpr (ne_of_notMem absent)
  simp only [splitOnce, nothing]

/-- The first separator divides a text. -/
theorem splitOnce_append {before after : List Char} (absent : separator ∉ before) :
    splitOnce separator (before ++ separator :: after) = (before, some after) := by
  -- The characters before it do not stop the dropping, and it does.
  have dropped : (before ++ separator :: after).dropWhile (· ≠ separator) = separator :: after := by
    rw [List.dropWhile_append_of_pos (ne_of_notMem absent)]
    simp
  simp only [splitOnce, dropped, takeWhile_ne_append absent]

/-- A text has no separator, or it is divided by the first one. -/
theorem notMem_or_split (separator : Char) (cs : List Char) :
    separator ∉ cs ∨
      ∃ before after, separator ∉ before ∧ cs = before ++ separator :: after := by
  by_cases member : separator ∈ cs
  · obtain ⟨before, after, split, absent⟩ := List.eq_append_cons_of_mem member
    exact .inr ⟨before, after, absent, split⟩
  · -- Else the separator is no member at all.
    exact .inl member

/-- Texts with a comma and a space between them are texts with commas, of which all but the first
start with a space. -/
theorem intercalate_comma_space (first : List Char) (rest : List (List Char)) :
    [',', ' '].intercalate (first :: rest) = [','].intercalate (first :: rest.map (' ' :: ·)) := by
  induction rest generalizing first with
  | nil => simp
  | cons second rest ih =>
    -- The space goes from the end of the separator to the front of the second text.
    have moved : [','].intercalate ((' ' :: second) :: rest.map (' ' :: ·)) =
        ' ' :: [','].intercalate (second :: rest.map (' ' :: ·)) := by
      cases rest <;> simp
    rw [List.intercalate_cons_cons, ih, List.map_cons, List.intercalate_cons_cons, moved]
    simp

/-- Texts without commas that are joined by commas and spaces are cut at the commas into themselves,
of which all but the first start with a space. -/
theorem splitOn_comma_space {first : List Char} {rest : List (List Char)}
    (plain : ∀ text ∈ first :: rest, ',' ∉ text) :
    splitOn ',' ([',', ' '].intercalate (first :: rest)) = first :: rest.map (' ' :: ·) := by
  rw [splitOn_eq, intercalate_comma_space]
  -- The library cuts joined texts apart again, if none of them has a separator inside.
  refine List.splitOn_intercalate ',' ?_ (by simp)
  intro text member comma
  rcases List.mem_cons.mp member with rfl | member
  · exact plain _ List.mem_cons_self comma
  · obtain ⟨piece, among, rfl⟩ := List.mem_map.mp member
    exact plain piece (List.mem_cons_of_mem _ among) (by simpa using comma)

/-- The part of a text after its last line feed. -/
def lastLine (cs : List Char) : List Char :=
  (splitOn '\n' cs).getLast?.getD []

section LastLine

variable {finished line : List Char} (unbroken : '\n' ∉ line)

include unbroken

/-- A text without line feeds is its own last line. -/
theorem lastLine_of_notMem : lastLine line = line := by
  -- No character is a place to cut, so the whole text is the only piece.
  have each : ∀ c ∈ line, (c == '\n') = false := by
    intro c member
    simpa using ne_of_notMem unbroken c member
  rw [lastLine, splitOn_eq, List.splitOn, List.splitOnP_eq_singleton each]
  rfl

/-- What ends in a line feed has no part in the last line. -/
theorem lastLine_append : lastLine (finished ++ '\n' :: line) = line := by
  have alone := lastLine_of_notMem unbroken
  rw [lastLine, splitOn_eq, List.splitOn] at alone ⊢
  rw [List.splitOnP_append_cons _ _ (by simp), List.getLast?_append]
  -- There is always a piece behind the line feed, and the last piece is found there.
  have filled : line.splitOnP (· == '\n') ≠ [] := List.splitOnP_ne_nil _ _
  rw [List.getLast?_eq_some_getLast filled] at alone ⊢
  exact alone

end LastLine

/-- The last line is taken from the end of a text, up to a line feed. -/
theorem reverse_takeWhile_reverse (cs : List Char) :
    (cs.reverse.takeWhile (· ≠ '\n')).reverse = lastLine cs := by
  -- The text is looked at from its end, where its last line feed is the first.
  rcases notMem_or_split '\n' cs.reverse with unbroken | ⟨line, finished, unbroken, split⟩
  · have taken : cs.reverse.takeWhile (· ≠ '\n') = cs.reverse :=
      List.takeWhile_eq_self_iff.mpr (ne_of_notMem unbroken)
    rw [taken, List.reverse_reverse]
    exact (lastLine_of_notMem (by simpa using unbroken)).symm
  · -- The line feed ends what stands before the last line.
    have whole : cs = finished.reverse ++ '\n' :: line.reverse := by
      rw [← cs.reverse_reverse, split]
      simp
    rw [split, takeWhile_ne_append unbroken, whole]
    exact (lastLine_append (by simpa using unbroken)).symm

end StackPanel.Text

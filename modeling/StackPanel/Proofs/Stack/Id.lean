import StackPanel.Proofs.Text.Trim
import StackPanel.Stack.Id

/-! The ids that are accepted, as a description of their characters. -/

namespace StackPanel.StackId

/-- Whether a character is an ASCII letter or digit, or one of four marks. -/
def IsPlain (c : Char) : Prop :=
  ('A' ≤ c ∧ c ≤ 'Z') ∨ ('a' ≤ c ∧ c ≤ 'z') ∨ ('0' ≤ c ∧ c ≤ '9') ∨ c ∈ ['-', '_', '.', '~']

/-- Whether an id stands for itself alone where it is one segment of a path. -/
structure IsSegment (id : String) : Prop where
  nonempty : id ≠ ""
  plain : ∀ c ∈ id.toList, IsPlain c
  notHere : id ≠ "."
  notAbove : id ≠ ".."

/-- The characters that are let through are the plain ones. -/
theorem isUnreserved_iff (c : Char) : isUnreserved c = true ↔ IsPlain c := by
  -- The library's classes of letters and digits are ranges of code points.
  have classes : c.isAlphanum =
      (decide ('A' ≤ c ∧ c ≤ 'Z') || ('a' ≤ c && c ≤ 'z') || ('0' ≤ c && c ≤ '9')) := rfl
  simp only [isUnreserved, IsPlain, classes, Bool.or_eq_true, Bool.and_eq_true, decide_eq_true_eq,
    List.mem_cons, List.not_mem_nil, or_false, or_assoc]

/-- The code of a plain character is that of a letter, a digit or a mark. -/
theorem IsPlain.toNat {c : Char} (plain : IsPlain c) :
    (65 ≤ c.toNat ∧ c.toNat ≤ 90) ∨ (97 ≤ c.toNat ∧ c.toNat ≤ 122) ∨
      (48 ≤ c.toNat ∧ c.toNat ≤ 57) ∨ c.toNat = 45 ∨ c.toNat = 95 ∨ c.toNat = 46 ∨
      c.toNat = 126 := by
  -- Each range of characters is the range of their codes.
  rcases plain with ⟨low, high⟩ | ⟨low, high⟩ | ⟨low, high⟩ | mark
  · exact .inl ⟨low, high⟩
  · exact .inr (.inl ⟨low, high⟩)
  · exact .inr (.inr (.inl ⟨low, high⟩))
  · -- Each mark has a code of its own.
    simp only [List.mem_cons, List.not_mem_nil, or_false] at mark
    rcases mark with rfl | rfl | rfl | rfl <;> simp

/-- No white space is plain. -/
theorem IsPlain.notBlank {c : Char} (plain : IsPlain c) : Text.isBlank c = false := by
  have code := plain.toNat
  -- All white space lies outside of the ranges of plain characters.
  rw [Bool.eq_false_iff]
  intro blank
  simp only [Text.isBlank, Bool.or_eq_true, Bool.and_eq_true, decide_eq_true_eq,
    beq_iff_eq] at blank
  omega

/-- No character that ends a segment or starts an escape is plain. -/
theorem IsPlain.notSpecial {c : Char} (plain : IsPlain c) : c ∉ ['/', '?', '#', '%'] := by
  intro special
  simp only [List.mem_cons, List.not_mem_nil, or_false] at special
  have code := plain.toNat
  -- None of the four codes is in a range or that of a mark.
  rcases special with rfl | rfl | rfl | rfl <;> simp at code

namespace IsSegment

variable {id : String}

/-- A segment has none of the characters that would end it or start an escape. -/
theorem notMem_special (segment : IsSegment id) {c : Char} (special : c ∈ ['/', '?', '#', '%']) :
    c ∉ id.toList :=
  fun member => (segment.plain c member).notSpecial special

/-- A segment has no white space to trim away. -/
theorem trim_eq (segment : IsSegment id) : Text.trim id = id := by
  have plain : ∀ c ∈ id.toList, Text.isBlank c = false := fun c member =>
    -- Trimming finds no white space at either end.
    (segment.plain c member).notBlank
  rw [Text.trim, Text.trimChars_of_plain plain, String.ofList_toList]

end IsSegment

/-- An id is accepted exactly if, once trimmed, it is a segment. -/
theorem validate_eq_ok_iff {raw id : String} :
    validate raw = .ok id ↔ Text.trim raw = id ∧ IsSegment id := by
  -- The test over all characters is the condition of a segment.
  have all : ∀ cs : List Char, cs.all isUnreserved = true ↔ ∀ c ∈ cs, IsPlain c := fun cs => by
    simp only [List.all_eq_true, isUnreserved_iff]
  unfold validate Text.trim
  generalize Text.trimChars raw.toList = cs
  constructor
  · -- Every test only refuses, and what passes them is returned as it was trimmed.
    intro accepted
    simp only at accepted
    split at accepted
    · simp at accepted
    · -- Something is left after trimming, and it is neither of the two that point elsewhere.
      rename_i nonempty
      split at accepted
      · simp at accepted
      · rename_i passed
        simp only [Bool.or_eq_true, Bool.not_eq_true', decide_eq_true_eq, not_or,
          Bool.not_eq_false, all] at passed
        obtain ⟨⟨plain, notHere⟩, notAbove⟩ := passed
        obtain rfl : String.ofList cs = id := by simpa using accepted
        refine ⟨rfl, ?_, by simpa using plain, ?_, ?_⟩
        · simpa using nonempty
        · exact fun here => notHere (by simpa using congrArg String.toList here)
        · exact fun above => notAbove (by simpa using congrArg String.toList above)
  · -- A segment passes each of the tests.
    rintro ⟨rfl, nonempty, plain, notHere, notAbove⟩
    have plain : cs.all isUnreserved = true := (all cs).mpr (by simpa using plain)
    have filled : cs.isEmpty = false := by simpa using nonempty
    have notHere : cs ≠ ['.'] := fun here => notHere (by rw [here])
    have notAbove : cs ≠ ['.', '.'] := fun above => notAbove (by rw [above])
    simp [filled, plain, notHere, notAbove]

/-- Any other id is refused. -/
theorem validate_refused {raw : String} (refused : ¬IsSegment (Text.trim raw)) :
    ∃ error, validate raw = .error error := by
  cases outcome : validate raw with
  | error error => exact ⟨error, rfl⟩
  | ok id =>
    -- An id that was accepted would be a segment.
    obtain ⟨rfl, segment⟩ := validate_eq_ok_iff.mp outcome
    exact absurd segment refused

end StackPanel.StackId

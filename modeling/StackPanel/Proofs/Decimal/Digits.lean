import Mathlib.Algebra.Ring.Nat
import Mathlib.Data.List.Induction
import Mathlib.Data.List.TakeWhile
import StackPanel.Decimal.Rounding
import StackPanel.Proofs.Text.Digits

/-! Numbers of a fixed width: the digits of a width are written for one number each. -/

namespace StackPanel.Decimal

open Text (decimalValue)

variable {width n : Nat} {ds : List Char}

/-- Digits with zeros in front are digits. -/
theorem isDigit_of_mem_paddedDigits {c : Char} (member : c ∈ paddedDigits width n) :
    c.isDigit = true := by
  -- A padded number is zeros and then digits.
  rcases List.mem_append.mp member with zero | digit
  · rw [(List.mem_replicate.mp zero).2]
    rfl
  · exact Text.isDigit_of_mem_toDigits digit

/-- Zeros in front add nothing. -/
@[simp] theorem decimalValue_paddedDigits (width n : Nat) :
    decimalValue (paddedDigits width n) = n := by
  -- The zeros are worth nothing, and moving nothing by any number of places leaves it so.
  rw [Text.decimalValue_eq, paddedDigits, Nat.ofDigitChars_append, Nat.ofDigitChars_replicate_zero,
    Nat.mul_zero, ← Text.decimalValue_eq]
  exact Text.decimalValue_toDigits n

/-- A number below a power of ten has as many digits. -/
theorem length_paddedDigits (positive : 0 < width) (small : n < 10 ^ width) :
    (paddedDigits width n).length = width := by
  -- A number below the power has no more digits than places, and zeros make up for the rest.
  have fits : (digits n).length ≤ width :=
    (Nat.length_toDigits_le_iff (by decide) positive).mpr small
  simp [paddedDigits, Nat.sub_add_cancel fits]

/-- The value of digits is that of the first of them, moved on by the others, and of the others. -/
theorem decimalValue_append (front back : List Char) :
    decimalValue (front ++ back) = 10 ^ back.length * decimalValue front + decimalValue back := by
  -- Reading on from a value moves it by as many places as there are digits.
  rw [Text.decimalValue_eq, Nat.ofDigitChars_append, Nat.ofDigitChars_eq_ofDigitChars_zero]
  rfl

/-- A last digit is added to ten times what stands before it. -/
theorem decimalValue_append_singleton (front : List Char) (last : Char) :
    decimalValue (front ++ [last]) = 10 * decimalValue front + Text.digitValue last := by
  simp [decimalValue]

/-- A digit is worth less than ten, and stands that far behind zero. -/
theorem toNat_of_isDigit {c : Char} (digit : c.isDigit = true) :
    Text.digitValue c < 10 ∧ c.toNat = 48 + Text.digitValue c := by
  -- The code points of digits follow each other, so that the value is a difference.
  have range := Char.isDigit_iff_toNat.mp digit
  simp only [Text.digitValue, Char.reduceToNat] at range ⊢
  omega

/-- Digits are worth less than the power of ten that has one more. -/
theorem decimalValue_lt (digits : ∀ c ∈ ds, c.isDigit = true) :
    decimalValue ds < 10 ^ ds.length := by
  -- The last digit is taken off, since it is the one that moves all the others.
  induction ds using List.reverseRecOn with
  | nil => decide
  | append_singleton front last ih =>
    have before := ih fun c member => digits c (List.mem_append_left _ member)
    have ends : Text.digitValue last < 10 := (toNat_of_isDigit (digits last (by simp))).1
    rw [decimalValue_append_singleton, List.length_append, List.length_singleton, Nat.pow_succ]
    omega

/-- Texts of digits that are as long and worth as much are the same. -/
theorem eq_of_decimalValue_eq {others : List Char} (digits : ∀ c ∈ ds, c.isDigit = true)
    (alsoDigits : ∀ c ∈ others, c.isDigit = true) (length : ds.length = others.length)
    (same : decimalValue ds = decimalValue others) : ds = others := by
  -- The induction goes from the last digit to the first, as the value is made up.
  induction ds using List.reverseRecOn generalizing others with
  -- Texts of the same length end together.
  | nil => exact (List.eq_nil_of_length_eq_zero length.symm).symm
  | append_singleton front last ih =>
    obtain rfl | ⟨before, final, rfl⟩ := List.eq_nil_or_concat others
    · simp at length
    · -- The last digits are what is left after tens, and the digits before are the tens.
      rw [List.concat_eq_append] at *
      obtain ⟨small, code⟩ := toNat_of_isDigit (digits last (by simp))
      obtain ⟨alsoSmall, alsoCode⟩ := toNat_of_isDigit (alsoDigits final (by simp))
      rw [decimalValue_append_singleton, decimalValue_append_singleton] at same
      have tens : front = before :=
        ih (fun c member => digits c (List.mem_append_left _ member))
          (fun c member => alsoDigits c (List.mem_append_left _ member)) (by simpa using length)
          (by omega)
      have ones : last = final := Char.toNat_inj.mp (by omega)
      rw [tens, ones]

/-- Digits are those of their value with zeros in front. -/
theorem paddedDigits_decimalValue (digits : ∀ c ∈ ds, c.isDigit = true) (filled : ds ≠ []) :
    paddedDigits ds.length (decimalValue ds) = ds :=
  eq_of_decimalValue_eq (fun _ => isDigit_of_mem_paddedDigits) digits
    (length_paddedDigits (List.length_pos_iff.mpr filled) (decimalValue_lt digits))
    (decimalValue_paddedDigits _ _)

/-- A number ends where another character than a digit follows. -/
theorem paddedDigits_append_inj {width other n m : Nat} {c d : Char} {rest left : List Char}
    (notDigit : c.isDigit = false) (alsoNot : d.isDigit = false)
    (same : paddedDigits width n ++ c :: rest = paddedDigits other m ++ d :: left) :
    n = m ∧ c :: rest = d :: left := by
  have taken : ∀ (width n : Nat) (c : Char) (rest : List Char), c.isDigit = false →
      (paddedDigits width n ++ c :: rest).takeWhile Char.isDigit = paddedDigits width n := by
    -- The digits are taken from the front, up to the character that is none.
    intro width n c rest stops
    rw [List.takeWhile_append_of_pos fun _ => isDigit_of_mem_paddedDigits]
    simp [stops]
  -- Both numbers are all the digits at the front of the same text.
  have equal : paddedDigits width n = paddedDigits other m := by
    rw [← taken width n c rest notDigit, same, taken other m d left alsoNot]
  refine ⟨?_, List.append_cancel_left (equal ▸ same)⟩
  -- Numbers with the same digits have the same value.
  rw [← decimalValue_paddedDigits width n, equal, decimalValue_paddedDigits]

/-- Digits alone have no zeros in front. -/
theorem paddedDigits_zero (n : Nat) : paddedDigits 0 n = digits n := by
  simp [paddedDigits]

/-- A number starts with a digit and with no other character. -/
theorem paddedDigits_append_ne {c : Char} (notDigit : c.isDigit = false) (width n : Nat)
    (rest left : List Char) : paddedDigits width n ++ rest ≠ c :: left := by
  -- Even with no zeros in front there is one digit at least.
  have filled : paddedDigits width n ≠ [] :=
    List.append_ne_nil_of_right_ne_nil _ Nat.toDigits_ne_nil
  obtain ⟨first, cs, split⟩ := List.exists_cons_of_ne_nil filled
  have digit : first.isDigit = true := isDigit_of_mem_paddedDigits (split ▸ List.mem_cons_self)
  rw [split, List.cons_append]
  intro same
  obtain ⟨rfl, -⟩ := List.cons.inj same
  simp [digit] at notDigit

end StackPanel.Decimal

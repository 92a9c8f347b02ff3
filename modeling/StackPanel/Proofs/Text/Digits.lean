import StackPanel.Text.Digits

/-! Decimal digits and the number they were written for. -/

namespace StackPanel.Text

/-- Digits are worth what the library takes them for. -/
theorem decimalValue_eq (ds : List Char) : decimalValue ds = Nat.ofDigitChars 10 ds 0 := rfl

/-- The digits of a number are worth that number. -/
@[simp] theorem decimalValue_toDigits (n : Nat) : decimalValue (Nat.toDigits 10 n) = n :=
  Nat.ofDigitChars_toDigits (by decide) (by decide)

/-- The digits of a number are digits. -/
theorem isDigit_of_mem_toDigits {n : Nat} {c : Char} (member : c ∈ Nat.toDigits 10 n) :
    c.isDigit = true :=
  Nat.isDigit_of_mem_toDigits (by decide) (by decide) member

/-- No other character stands among digits. -/
theorem notMem_toDigits {c : Char} (notDigit : c.isDigit = false) (n : Nat) :
    c ∉ Nat.toDigits 10 n := by
  -- Else the character would be a digit.
  intro member
  rw [isDigit_of_mem_toDigits member] at notDigit
  contradiction

/-- Only zero starts with the digit zero. -/
theorem eq_zero_of_head?_toDigits {n : Nat} (zero : (Nat.toDigits 10 n).head? = some '0') :
    n = 0 := by
  -- The first digit is that of the number without its last digit, down to a single digit.
  induction n using Nat.strongRecOn with
  | ind n ih =>
    rw [Nat.toDigits_eq_if (by decide)] at zero
    by_cases single : n < 10
    · rw [if_pos single] at zero
      have same : n.digitChar = '0' := by simpa using zero
      -- A digit below ten is so far behind the character of zero.
      have worth : n.digitChar.toNat = 48 + n := Nat.toNat_digitChar_of_lt_ten single
      simp only [same, Char.reduceToNat] at worth
      omega
    · -- A longer number starts like its tenth, so that would be zero and the number below ten.
      obtain ⟨c, cs, shape⟩ := List.exists_cons_of_ne_nil
        (Nat.toDigits_ne_nil : Nat.toDigits 10 (n / 10) ≠ [])
      have first : (Nat.toDigits 10 (n / 10)).head? = some '0' := by
        rw [if_neg single, shape] at zero
        rwa [shape]
      have shorter : n / 10 = 0 := ih (n / 10) (by omega) first
      omega

/-- A decimal is a text of digits, at least one of them, and stands for what they are worth. -/
theorem decimal?_eq_some_iff {cs : List Char} {n : Nat} :
    decimal? cs = some n ↔
      cs ≠ [] ∧ (∀ c ∈ cs, c.isDigit = true) ∧ Nat.ofDigitChars 10 cs 0 = n := by
  unfold decimal?
  -- Both sides ask for the same three things, once the tests of the reader are known.
  rw [← decimalValue_eq]
  by_cases nothing : cs = []
  · simp [nothing]
  · by_cases digits : cs.all Char.isDigit = true
    · have each : ∀ c ∈ cs, c.isDigit = true := List.all_eq_true.mp digits
      have filled : cs.isEmpty = false := List.isEmpty_eq_false_iff.mpr nothing
      simp only [filled, digits, Bool.not_true, Bool.or_false, Bool.false_eq_true, if_false,
        Option.some.injEq]
      exact ⟨fun worth => ⟨nothing, each, worth⟩, fun written => written.2.2⟩
    · -- Any other character spoils the number.
      have spoiled : ¬∀ c ∈ cs, c.isDigit = true := fun each => digits (List.all_eq_true.mpr each)
      simp only [digits, Bool.not_false, Bool.or_true, if_true, reduceCtorEq, false_iff]
      rintro ⟨-, each, -⟩
      exact spoiled each

/-- The digits of a number are read as that number. -/
theorem decimal?_toDigits (n : Nat) : decimal? (Nat.toDigits 10 n) = some n :=
  decimal?_eq_some_iff.mpr ⟨Nat.toDigits_ne_nil, fun _ => isDigit_of_mem_toDigits,
    decimalValue_toDigits n⟩

end StackPanel.Text

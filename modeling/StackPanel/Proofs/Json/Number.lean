import StackPanel.Decimal.Rounding
import StackPanel.Json.Number
import StackPanel.Proofs.Text.Digits

/-! Whole numbers inside JSON: they are read back, whatever follows that is no part of a number. -/

namespace StackPanel.Json

/-- Whether a number that stands before a text ends there. -/
def EndsNumber (rest : List Char) : Prop :=
  ∀ c ∈ rest.head?, c.isDigit = false ∧ c ≠ '.' ∧ c ≠ 'e' ∧ c ≠ 'E'

/-- Whether a whole number is one of those that stay whole. -/
def InWord (n : Int) : Prop :=
  -(Nat.pow 2 63 : Nat) ≤ n ∧ n < (Nat.pow 2 64 : Nat)

/-- The token of a whole number. -/
def tokenOf (n : Int) : NumberToken :=
  { negative := n < 0, whole := Nat.toDigits 10 n.natAbs, fraction := none, exponent := none }

variable {rest : List Char}

/-- Digits are taken up to where the number ends. -/
theorem takeDigits_append (ends : EndsNumber rest) {ds : List Char}
    (digits : ∀ c ∈ ds, c.isDigit = true) : takeDigits (ds ++ rest) = (ds, rest) := by
  induction ds with
  | nil =>
    -- What follows starts with no digit.
    cases rest with
    | nil => rfl
    | cons c rest =>
      have other : c.isDigit = false := (ends c rfl).1
      simp [takeDigits, other]
  | cons c ds ih =>
    -- A digit more is taken up in front of the others.
    have digit : c.isDigit = true := digits c List.mem_cons_self
    have taken := ih fun other member => digits other (List.mem_cons_of_mem c member)
    simp only [takeDigits, Prod.mk.injEq] at taken
    simp [takeDigits, digit, taken]

/-- The digits of a number are read as its whole part. -/
theorem readWhole?_toDigits (ends : EndsNumber rest) (n : Nat) :
    readWhole? (Nat.toDigits 10 n ++ rest) = some (Nat.toDigits 10 n, rest) := by
  have taken : takeDigits (Nat.toDigits 10 n ++ rest) = (Nat.toDigits 10 n, rest) :=
    takeDigits_append ends fun c member => Text.isDigit_of_mem_toDigits member
  obtain ⟨c, cs, shape⟩ := List.exists_cons_of_ne_nil
    (Nat.toDigits_ne_nil : Nat.toDigits 10 n ≠ [])
  by_cases zero : c = '0'
  · -- Zero stands alone, and no digit follows it.
    have nothing : n = 0 := by
      refine Text.eq_zero_of_head?_toDigits ?_
      rw [shape, zero, List.head?_cons]
    subst nothing
    cases rest with
    | nil => rfl
    | cons c rest =>
      have other : c.isDigit = false := (ends c rfl).1
      simp [readWhole?, other]
  · -- Any other first digit starts as many digits as there are.
    rw [shape, List.cons_append] at taken ⊢
    rw [readWhole?.eq_def]
    simp [zero, taken]

/-- A number that ends has no fraction. -/
theorem readFraction?_end (ends : EndsNumber rest) : readFraction? rest = some (none, rest) := by
  cases rest with
  | nil => rfl
  | cons c rest =>
    -- What ends a number is no decimal point.
    have noPoint : c ≠ '.' := (ends c rfl).2.1
    simp [readFraction?, noPoint]

/-- A number that ends has no exponent. -/
theorem readExponent?_end (ends : EndsNumber rest) : readExponent? rest = some (none, rest) := by
  cases rest with
  | nil => rfl
  | cons c rest =>
    -- Neither is it the letter of an exponent, small or capital.
    obtain ⟨-, -, small, capital⟩ := ends c rfl
    rw [readExponent?.eq_def]
    simp [small, capital]

/-- A whole number is read as its token. -/
theorem readNumberToken?_ofInt (ends : EndsNumber rest) (n : Int) :
    readNumberToken? (Decimal.ofInt n ++ rest) = some (tokenOf n, rest) := by
  cases n with
  | ofNat n =>
    -- Its first character is a digit, and so no sign.
    obtain ⟨c, cs, shape⟩ := List.exists_cons_of_ne_nil
      (Nat.toDigits_ne_nil : Nat.toDigits 10 n ≠ [])
    have digit : c.isDigit = true :=
      Text.isDigit_of_mem_toDigits (n := n) (by rw [shape]; exact List.mem_cons_self)
    have unsigned : c ≠ '-' := by
      rintro rfl
      contradiction
    -- All digits are read, since what follows ends the number.
    have read := readWhole?_toDigits ends n
    rw [shape, List.cons_append] at read
    have positive : ¬(n : Int) < 0 := by omega
    simp [readNumberToken?, Decimal.ofInt, Decimal.digits, tokenOf, shape, unsigned, read, positive,
      readFraction?_end ends, readExponent?_end ends]
  | negSucc n =>
    -- The sign is taken off, and the digits behind it are read like those of any number.
    simp [readNumberToken?, Decimal.ofInt, Decimal.digits, tokenOf, readWhole?_toDigits ends,
      readFraction?_end ends, readExponent?_end ends]

/-- The token of a whole number of 64 bits stands for that number. -/
theorem value?_tokenOf {n : Int} (range : InWord n) : (tokenOf n).value? = some (.integer n) := by
  obtain ⟨low, high⟩ := range
  simp only [Nat.pow_eq] at low high
  -- The digits stand for the distance from zero, for which each sign has a bound of its own.
  by_cases negative : n < 0
  · obtain ⟨m, rfl⟩ : ∃ m : Nat, n = -(m : Int) := ⟨n.natAbs, by omega⟩
    have nonzero : m ≠ 0 := by omega
    have small : m ≤ Nat.pow 2 63 := by
      simp only [Nat.pow_eq]
      omega
    simp [tokenOf, NumberToken.value?, nonzero, small]
  · obtain ⟨m, rfl⟩ : ∃ m : Nat, n = m := ⟨n.natAbs, by omega⟩
    have small : m < Nat.pow 2 64 := by
      simp only [Nat.pow_eq]
      omega
    simp [tokenOf, NumberToken.value?, negative, small]

end StackPanel.Json

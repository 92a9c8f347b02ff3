import Mathlib.Algebra.Order.Field.Power
import Mathlib.Tactic.Ring
import StackPanel.Proofs.Decimal.Rounding
import StackPanel.Stack.Display

/-! The double that a whole number is converted to is the nearest one, and of two the one with the
even significand. -/

namespace StackPanel.Display

open Decimal (IsNearest RoundsTo multiples roundDiv)

/-- The values of doubles. The limits of the exponent are left out, since no number of 64 bits comes
near them. -/
def doubles : Set ℚ :=
  {x | ∃ significand exponent : ℤ, |significand| < 2 ^ 53 ∧ x = significand * 2 ^ exponent}

/-- Whether a whole number is the double nearest to another, and has an even significand of full
length if a second double is as near. -/
structure IsNearestDouble (n rounded : ℤ) : Prop where
  nearest : IsNearest doubles n rounded
  even : ∀ other ∈ doubles, |(n : ℚ) - other| = |(n : ℚ) - rounded| → other = rounded ∨
    ∃ significand exponent : ℕ, 2 ^ 52 ≤ significand ∧ significand < 2 ^ 53 ∧ Even significand ∧
      rounded.natAbs = significand * 2 ^ exponent

/-- The double that a whole number is converted to, which is a whole number again. -/
def toDouble : ℤ → ℤ
  | .ofNat n => nearestDouble n
  | .negSucc n => -nearestDouble (n + 1)

/-- A whole number of 53 bits is a double. -/
theorem nearestDouble_of_lt {n : ℕ} (small : n < 2 ^ 53) : nearestDouble n = n := by
  -- No bits stand behind the first 53, so the step of rounding is one.
  have bits : n.log2 - 52 = 0 := by
    by_cases zero : n = 0
    · rw [zero]
      decide
    · have short : n.log2 < 53 := (Nat.log2_lt zero).mpr small
      omega
  simp only [nearestDouble, bits]
  simp [roundDiv, Nat.mod_one]

/-- A double is a multiple of a power of two, or less than that power with 52 bits more. -/
theorem mem_multiples_or_lt {x : ℚ} (double : x ∈ doubles) (exponent : ℕ) :
    x ∈ multiples (2 ^ exponent) ∨ x < 2 ^ 52 * 2 ^ exponent := by
  obtain ⟨significand, power, size, rfl⟩ := double
  by_cases coarse : (exponent : ℤ) ≤ power
  · -- A greater power is a multiple of the lesser one.
    obtain ⟨more, rfl⟩ := Int.le.dest coarse
    refine .inl ⟨significand * 2 ^ more, ?_⟩
    push_cast
    rw [zpow_add₀ (by norm_num), zpow_natCast, zpow_natCast]
    ring
  · -- A lesser power has at most half the size, and 53 bits are not more than 52 of it.
    right
    have below : power + 1 ≤ exponent := by omega
    have positive : (0 : ℚ) < 2 ^ power := by positivity
    have less : (significand : ℚ) < 2 ^ 53 := by exact_mod_cast (abs_lt.mp size).2
    calc (significand : ℚ) * 2 ^ power < 2 ^ 53 * 2 ^ power := mul_lt_mul_of_pos_right less positive
      _ = 2 ^ 52 * 2 ^ (power + 1) := by rw [zpow_add₀ (by norm_num)]; ring
      _ ≤ 2 ^ 52 * 2 ^ (exponent : ℤ) := by gcongr; norm_num
      _ = 2 ^ 52 * 2 ^ exponent := by rw [zpow_natCast]

/-- A number of more bits lies between two powers of two, and so does the number of steps that it is
rounded to. -/
theorem exists_nearestDouble_eq {n : ℕ} (large : 2 ^ 53 ≤ n) :
    ∃ exponent, 2 ^ 52 * 2 ^ exponent ≤ n ∧
      nearestDouble n = roundDiv n (2 ^ exponent) * 2 ^ exponent ∧
      2 ^ 52 ≤ roundDiv n (2 ^ exponent) ∧ roundDiv n (2 ^ exponent) ≤ 2 ^ 53 := by
  -- The exponent is the number of bits beyond the first 53.
  have nonzero : n ≠ 0 := by omega
  have bits : 53 ≤ n.log2 := (Nat.le_log2 nonzero).mpr large
  -- The logarithm is 52 and the exponent, which is counted by it.
  obtain ⟨exponent, split⟩ := Nat.exists_eq_add_of_le (show 52 ≤ n.log2 by omega)
  have same : n.log2 - 52 = exponent := by omega
  have low : 2 ^ 52 * 2 ^ exponent ≤ n := by
    rw [← Nat.pow_add, ← split]
    exact Nat.log2_self_le nonzero
  have high : n ≤ 2 ^ 53 * 2 ^ exponent := by
    rw [← Nat.pow_add, show 53 + exponent = n.log2 + 1 by omega]
    exact Nat.lt_log2_self.le
  have positive : 0 < 2 ^ exponent := Nat.two_pow_pos exponent
  refine ⟨exponent, low, ?_, Decimal.le_roundDiv positive low, Decimal.roundDiv_le positive high⟩
  simp only [nearestDouble, same]
  rfl

/-- A whole number of steps between 52 and 53 bits is a double, and its significand is even if the
number of steps is. -/
theorem double_of_steps {steps : ℕ} (low : 2 ^ 52 ≤ steps) (high : steps ≤ 2 ^ 53)
    (exponent : ℕ) :
    ((steps * 2 ^ exponent : ℕ) : ℚ) ∈ doubles ∧ (Even steps →
      ∃ significand power : ℕ, 2 ^ 52 ≤ significand ∧ significand < 2 ^ 53 ∧ Even significand ∧
        steps * 2 ^ exponent = significand * 2 ^ power) := by
  by_cases full : steps = 2 ^ 53
  · -- One bit too many is one more for the exponent.
    have shifted : steps * 2 ^ exponent = 2 ^ 52 * 2 ^ (exponent + 1) := by
      rw [full]
      ring
    refine ⟨⟨2 ^ 52, exponent + 1, by norm_num, ?_⟩,
      fun _ => ⟨2 ^ 52, exponent + 1, le_refl _, ?_, ?_, shifted⟩⟩
    · rw [shifted]
      push_cast
      norm_cast
    · norm_num
    · decide
  · have less : steps < 2 ^ 53 := Nat.lt_of_le_of_ne high full
    -- A significand of 53 bits is taken as it is.
    refine ⟨⟨steps, exponent, ?_, ?_⟩, fun even => ⟨steps, exponent, low, less, even, rfl⟩⟩
    · rw [Nat.abs_cast]
      exact_mod_cast less
    · push_cast
      norm_cast

/-- A double is nearest to itself, and no other is as near. -/
theorem isNearestDouble_self {n : ℕ} (small : n < 2 ^ 53) : IsNearestDouble n n := by
  have itself : |((n : ℤ) : ℚ) - ((n : ℤ) : ℚ)| = 0 := by simp
  -- The number itself is a significand, with an exponent of zero.
  refine ⟨⟨⟨n, 0, ?_, by simp⟩, ?_⟩, ?_⟩
  · rw [Nat.abs_cast]
    exact_mod_cast small
  · intro other _
    rw [itself]
    exact abs_nonneg _
  · intro other _ tie
    -- Another one as near would be at no distance.
    rw [itself, abs_eq_zero, sub_eq_zero] at tie
    exact .inl tie.symm

/-- A natural number is converted to the nearest double. -/
theorem isNearestDouble_natCast (n : ℕ) : IsNearestDouble n (nearestDouble n) := by
  by_cases small : n < 2 ^ 53
  · -- A number of 53 bits is a double itself.
    rw [nearestDouble_of_lt small]
    exact isNearestDouble_self small
  · obtain ⟨exponent, least, same, low, high⟩ := exists_nearestDouble_eq (Nat.le_of_not_lt small)
    obtain ⟨double, even⟩ := double_of_steps low high exponent
    have step : (0 : ℚ) < 2 ^ exponent := by positivity
    have rounds : RoundsTo (2 ^ exponent) n (roundDiv n (2 ^ exponent) : ℕ) := by
      have quotient := Decimal.roundsTo_roundDiv n (Nat.two_pow_pos exponent) step
      push_cast at quotient
      rwa [mul_div_cancel_right₀ _ step.ne'] at quotient
    -- Among the multiples of the step it is nearest.
    obtain ⟨near, ties⟩ := rounds.isNearest step
    rw [same]
    have value : (((roundDiv n (2 ^ exponent) * 2 ^ exponent : ℕ) : ℤ) : ℚ) =
        ((roundDiv n (2 ^ exponent) : ℕ) : ℤ) * 2 ^ exponent := by
      push_cast
      rfl
    rw [← value] at near ties
    -- Doubles that are no multiples are smaller than the least multiple, and farther away.
    have lowest : ((2 ^ 52 : ℤ) : ℚ) * 2 ^ exponent ≤ n := by exact_mod_cast least
    refine ⟨⟨double, ?_⟩, ?_⟩
    · intro other member
      rcases mem_multiples_or_lt member exponent with multiple | less
      · exact near.le other multiple
      · exact (near.lt_of_lt_multiple lowest (by exact_mod_cast less)).le
    · intro other member tie
      -- Of two multiples as near, the even one was taken.
      rcases mem_multiples_or_lt member exponent with multiple | less
      · refine (ties other multiple tie).imp_right fun evenly => ?_
        rw [Int.natAbs_natCast]
        exact even (by exact_mod_cast evenly)
      · exact absurd tie (near.lt_of_lt_multiple lowest (by exact_mod_cast less)).ne'

/-- The opposites of doubles are doubles. -/
theorem neg_mem_doubles {x : ℚ} (double : x ∈ doubles) : -x ∈ doubles := by
  obtain ⟨significand, exponent, size, rfl⟩ := double
  -- The significand changes its sign.
  exact ⟨-significand, exponent, by rwa [abs_neg], by push_cast; ring⟩

/-- The opposite of a number is converted to the opposite double. -/
theorem IsNearestDouble.neg {n rounded : ℤ} (nearest : IsNearestDouble n rounded) :
    IsNearestDouble (-n) (-rounded) := by
  -- Distances stay the same when both ends change their signs.
  have mirrored : ∀ other : ℚ, |((-n : ℤ) : ℚ) - other| = |(n : ℚ) - -other| := by
    intro other
    rw [← abs_neg]
    congr 1
    push_cast
    ring
  have double := neg_mem_doubles nearest.nearest.mem
  refine ⟨⟨by exact_mod_cast double, ?_⟩, ?_⟩
  · intro other member
    rw [mirrored, mirrored]
    push_cast
    rw [neg_neg]
    exact nearest.nearest.le _ (neg_mem_doubles member)
  · intro other member tie
    rw [mirrored, mirrored] at tie
    push_cast at tie
    rw [neg_neg] at tie
    rw [Int.natAbs_neg]
    refine (nearest.even _ (neg_mem_doubles member) tie).imp_left fun same => ?_
    push_cast
    rw [← same, neg_neg]

/-- A whole number is converted to the nearest double. -/
theorem isNearestDouble_toDouble (n : ℤ) : IsNearestDouble n (toDouble n) := by
  -- The order of the cases is that of the definition.
  cases n with
  | ofNat n => exact isNearestDouble_natCast n
  | negSucc n => exact (isNearestDouble_natCast (n + 1)).neg

/-- Conversion to a double keeps the order of whole numbers. -/
theorem toDouble_mono {m n : ℤ} (le : m ≤ n) : toDouble m ≤ toDouble n := by
  -- Different numbers keep their order because each has a nearest double.
  rcases le.lt_or_eq with less | rfl
  · have ordered := (isNearestDouble_toDouble m).nearest.le_of_lt
      (isNearestDouble_toDouble n).nearest (by exact_mod_cast less)
    exact_mod_cast ordered
  · exact le_refl _

end StackPanel.Display

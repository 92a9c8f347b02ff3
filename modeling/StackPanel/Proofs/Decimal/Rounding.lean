import Mathlib.Algebra.Order.Field.Rat
import Mathlib.Algebra.Order.Ring.Abs
import Mathlib.Tactic.FieldSimp
import Mathlib.Tactic.Linarith
import Mathlib.Tactic.Positivity
import StackPanel.Decimal.Rounding

/-! Numbers nearest to a value, and the rounding of a quotient to one of them: to the nearest, and
to the even one of two. -/

namespace StackPanel.Decimal

/-- Whether a number is nearest to a value among some numbers. -/
structure IsNearest (among : Set ℚ) (value nearest : ℚ) : Prop where
  mem : nearest ∈ among
  le : ∀ other ∈ among, |value - nearest| ≤ |value - other|

/-- The whole multiples of a step. -/
def multiples (step : ℚ) : Set ℚ :=
  {x | ∃ k : ℤ, x = k * step}

/-- Whether a value is rounded to a number of steps: it is at most half a step away, and exactly
half a step only from an even number of them. -/
structure RoundsTo (step value : ℚ) (k : ℤ) : Prop where
  half : |value - k * step| ≤ step / 2
  even : |value - k * step| = step / 2 → Even k

/-- Nearest numbers keep the order of values. -/
theorem IsNearest.le_of_lt {among : Set ℚ} {value other nearest also : ℚ}
    (one : IsNearest among value nearest) (another : IsNearest among other also)
    (less : value < other) : nearest ≤ also := by
  -- Otherwise each value would lie on the other's side of the middle between the two numbers.
  by_contra! crossed
  have near := one.le also another.mem
  have alsoNear := another.le nearest one.mem
  rw [← sq_le_sq] at near alsoNear
  nlinarith

/-- Numbers of steps that are not the same are a whole step apart. -/
theorem step_le_of_ne {step : ℚ} (positive : 0 < step) {j k : ℤ} (apart : j ≠ k) :
    step ≤ |(j : ℚ) * step - k * step| := by
  -- Whole numbers that differ do so by one at least.
  have whole : (1 : ℤ) ≤ |j - k| := Int.one_le_abs (sub_ne_zero.mpr apart)
  have atLeast : (1 : ℚ) ≤ |(j : ℚ) - k| := by exact_mod_cast whole
  rw [← sub_mul, abs_mul, abs_of_pos positive]
  exact le_mul_of_one_le_left positive.le atLeast

variable {step value : ℚ} {k : ℤ}

/-- What is nearest among the multiples of a step is nearer than all that lies below a multiple which
is not above the value. -/
theorem IsNearest.lt_of_lt_multiple {nearest other : ℚ}
    (near : IsNearest (multiples step) value nearest) (low : k * step ≤ value)
    (less : other < k * step) : |value - nearest| < |value - other| :=
  -- The value is not below that multiple, and the other number is.
  calc |value - nearest| ≤ |value - k * step| := near.le _ ⟨k, rfl⟩
    _ = value - k * step := abs_of_nonneg (sub_nonneg.mpr low)
    _ < value - other := sub_lt_sub_left less _
    _ ≤ |value - other| := le_abs_self _

/-- What a value is rounded to is nearest among the multiples of the step, and another is as near
only if an even number of steps was chosen. -/
theorem RoundsTo.isNearest (positive : 0 < step) (rounds : RoundsTo step value k) :
    IsNearest (multiples step) value (k * step) ∧
      ∀ other ∈ multiples step, |value - other| = |value - k * step| →
        other = k * step ∨ Even k := by
  have half := rounds.half
  -- The way to any other multiple over the value is at least a step long.
  have triangle : ∀ j : ℤ, j ≠ k → step ≤ |value - j * step| + |value - k * step| := by
    intro j apart
    have sides := abs_sub_le ((j : ℚ) * step) value (k * step)
    rw [abs_sub_comm (j * step) value] at sides
    exact (step_le_of_ne positive apart).trans sides
  refine ⟨⟨⟨k, rfl⟩, ?_⟩, ?_⟩
  · rintro _ ⟨j, rfl⟩
    -- A multiple is as far from the value as itself, and any other farther by the triangle.
    by_cases same : j = k
    · rw [same]
    · have sides := triangle j same
      linarith
  · rintro _ ⟨j, rfl⟩ tie
    by_cases same : j = k
    · exact .inl (by rw [same])
    · -- Another multiple that is as near leaves half a step on both sides.
      have sides := triangle j same
      exact .inr (rounds.even (by linarith))

/-- A quotient lies at most a half away from the whole number that it is rounded to, and exactly a
half only from an even one. -/
theorem roundDiv_spec (num : ℕ) {den : ℕ} (positive : 0 < den) :
    2 * (roundDiv num den * den) ≤ 2 * num + den ∧ 2 * num ≤ 2 * (roundDiv num den * den) + den ∧
      (2 * (roundDiv num den * den) = 2 * num + den ∨
        2 * num = 2 * (roundDiv num den * den) + den → Even (roundDiv num den)) := by
  -- The numerator is its whole part and what is left over.
  have split : num / den * den + num % den = num := Nat.div_add_mod' num den
  have small : num % den < den := Nat.mod_lt num positive
  unfold roundDiv
  dsimp only
  split_ifs with below above
  · -- Less than a half is left over, so the whole part is nearest.
    omega
  · -- More than a half is left over, so the next whole number is nearest.
    rw [Nat.add_mul, Nat.one_mul]
    omega
  · -- Exactly a half is left over, and the even neighbour is taken.
    have half : 2 * (num % den) = den := by omega
    obtain ⟨k, even⟩ | ⟨k, odd⟩ := Nat.even_or_odd (num / den)
    · -- An even whole part stays, and an odd one goes up to the next.
      have stays : num / den + num / den % 2 = num / den := by omega
      rw [stays]
      exact ⟨by omega, by omega, fun _ => ⟨k, even⟩⟩
    · have moves : num / den + num / den % 2 = num / den + 1 := by omega
      rw [moves, Nat.add_mul, Nat.one_mul]
      exact ⟨by omega, by omega, fun _ => ⟨k + 1, by omega⟩⟩

/-- A quotient that is no less than a whole number is rounded to no less than it. -/
theorem le_roundDiv {num den least : ℕ} (positive : 0 < den) (low : least * den ≤ num) :
    least ≤ roundDiv num den := by
  obtain ⟨-, high, -⟩ := roundDiv_spec num positive
  -- A lesser result would be a whole denominator away, which is more than a half.
  by_contra! less
  have next : (roundDiv num den + 1) * den ≤ least * den := Nat.mul_le_mul_right den less
  rw [Nat.add_mul, Nat.one_mul] at next
  omega

/-- A quotient that is no more than a whole number is rounded to no more than it. -/
theorem roundDiv_le {num den most : ℕ} (positive : 0 < den) (high : num ≤ most * den) :
    roundDiv num den ≤ most := by
  obtain ⟨low, -, -⟩ := roundDiv_spec num positive
  -- Again the greater result would be a whole denominator away.
  by_contra! more
  have next : (most + 1) * den ≤ roundDiv num den * den := Nat.mul_le_mul_right den more
  rw [Nat.add_mul, Nat.one_mul] at next
  omega

/-- A quotient in steps is rounded to the number of steps. -/
theorem roundsTo_roundDiv (num : ℕ) {den : ℕ} (positive : 0 < den) (isStep : 0 < step) :
    RoundsTo step (num * step / den) (roundDiv num den : ℕ) := by
  obtain ⟨low, high, even⟩ := roundDiv_spec num positive
  generalize roundDiv num den = rounded at low high even
  have denPositive : (0 : ℚ) < den := by exact_mod_cast positive
  -- The distance is that of the numerator from a multiple of the denominator, in other units.
  have distance : |(num : ℚ) * step / den - ((rounded : ℕ) : ℤ) * step| =
      |(2 * num - 2 * (rounded * den) : ℚ)| * (step / (2 * den)) := by
    rw [← abs_of_pos (show (0 : ℚ) < step / (2 * den) by positivity), ← abs_mul]
    congr 1
    push_cast
    field_simp
  -- Both sides were shown for whole numbers.
  have bound : |(2 * num - 2 * (rounded * den) : ℚ)| ≤ den := by
    have lower : (2 * (rounded * den) : ℚ) ≤ 2 * num + den := by exact_mod_cast low
    have upper : (2 * num : ℚ) ≤ 2 * (rounded * den) + den := by exact_mod_cast high
    rw [abs_le]
    constructor <;> linarith
  have scaled : (den : ℚ) * (step / (2 * den)) = step / 2 := by field_simp
  refine ⟨?_, fun tie => ?_⟩
  · rw [distance, ← scaled]
    exact mul_le_mul_of_nonneg_right bound (by positivity)
  · rw [distance, ← scaled] at tie
    have full := mul_right_cancel₀ (by positivity) tie
    -- Half a step away means half a denominator, on either side.
    have sides : 2 * (rounded * den) = 2 * num + den ∨ 2 * num = 2 * (rounded * den) + den := by
      rcases abs_eq denPositive.le |>.mp full with above | below
      · right
        have whole : (2 * num : ℚ) = 2 * (rounded * den) + den := by linarith
        exact_mod_cast whole
      · left
        have whole : (2 * (rounded * den) : ℚ) = 2 * num + den := by linarith
        exact_mod_cast whole
    exact_mod_cast even sides

end StackPanel.Decimal

import StackPanel.Decimal.Rounding

/-! Finite binary floating-point numbers of 64 bits, with exact arithmetic before each rounding. -/

namespace StackPanel.Decimal

/-- The number `significand * 2 ^ exponent` with a sign, which zero has as well. -/
structure Double where
  /-- Whether the sign is minus. -/
  negative : Bool
  /-- At most fifty-three bits. -/
  significand : Nat
  /-- At least -1074, and exactly that for a significand below fifty-three bits. -/
  exponent : Int
  deriving DecidableEq

namespace Double

/-- A zero of either sign. -/
def zero (negative : Bool) : Double :=
  { negative, significand := 0, exponent := -1074 }

/-- Numerator and denominator of a quotient once it is divided by a power of two. -/
def scaleDown (num den : Nat) (exponent : Int) : Nat × Nat :=
  match exponent with
  | .ofNat n => (num, den * Nat.pow 2 n)
  | .negSucc n => (num * Nat.pow 2 (n + 1), den)

/-- The magnitude of a double as a quotient. -/
def ratio (x : Double) : Nat × Nat :=
  match x.exponent with
  | .ofNat n => (x.significand * Nat.pow 2 n, 1)
  | .negSucc n => (x.significand, Nat.pow 2 (n + 1))

/-- The double nearest to a quotient, ties to the even significand; none if it is too large. -/
def ofRatio? (negative : Bool) (num den : Nat) : Option Double :=
  if num = 0 then some (zero negative)
  else
    -- The quotient over this power of two lies between 2^52 and 2^54 unless it is subnormal.
    let low : Int := max ((num.log2 : Int) - den.log2 - 53) (-1074)
    let scaled := scaleDown num den low
    let exponent := if scaled.2 * Nat.pow 2 53 ≤ scaled.1 then low + 1 else low
    let scaled := scaleDown num den exponent
    let rounded := roundDiv scaled.1 scaled.2
    -- Rounding up may need one more bit.
    let (significand, exponent) :=
      if rounded = Nat.pow 2 53 then (Nat.pow 2 52, exponent + 1) else (rounded, exponent)
    if 971 < exponent then none else some { negative, significand, exponent }

/-- The product of two doubles, rounded once. -/
def mul? (x y : Double) : Option Double :=
  ofRatio? (x.negative != y.negative) (x.ratio.1 * y.ratio.1) (x.ratio.2 * y.ratio.2)

/-- The quotient of two doubles with a nonzero divisor, rounded once. -/
def div? (x y : Double) : Option Double :=
  ofRatio? (x.negative != y.negative) (x.ratio.1 * y.ratio.2) (x.ratio.2 * y.ratio.1)

/-- The double nearest to a power of ten. -/
def powerOfTen? (exponent : Nat) : Option Double :=
  ofRatio? false (Nat.pow 10 exponent) 1

/-- A significand scaled by a power of ten, each operation rounded to a double.
Large exponents take steps of 308, so that the powers of ten stay in range. -/
def ofScaled? (negative : Bool) (value : Double) (exponent : Int) : Nat → Option Double
  | 0 => some (zero negative)
  | steps + 1 =>
    if value.significand = 0 then some (zero negative)
    else if 308 < exponent then none
    else if 0 ≤ exponent then do
      let power ← powerOfTen? exponent.toNat
      let product ← value.mul? power
      return { product with negative }
    else if -308 ≤ exponent then do
      let power ← powerOfTen? (-exponent).toNat
      let quotient ← value.div? power
      return { quotient with negative }
    else do
      let power ← powerOfTen? 308
      let quotient ← value.div? power
      ofScaled? negative quotient (exponent + 308) steps

end Double

end StackPanel.Decimal

import StackPanel.Decimal.Double

/-! The shortest decimal that reads back as a given double. -/

namespace StackPanel.Decimal

/-- The largest power of ten that is at most a positive quotient. -/
def floorLogTen (num den : Nat) : Int :=
  let guess : Int := (digits num).length - (digits den).length
  let reached := match guess with
    | .ofNat n => decide (den * Nat.pow 10 n ≤ num)
    | .negSucc n => decide (den ≤ num * Nat.pow 10 (n + 1))
  if reached then guess else guess - 1

/-- A decimal `digits * 10 ^ exponent`. -/
structure Scientific where
  /-- The digits as one number. -/
  significand : Nat
  /-- The power of ten. -/
  exponent : Int
  deriving DecidableEq

/-- Moves zeros at the end of the significand into the exponent, at most as many as given. -/
def Scientific.normalize (x : Scientific) : Nat → Scientific
  | 0 => x
  | zeros + 1 =>
    if x.significand % 10 = 0 ∧ x.significand ≠ 0 then
      Scientific.normalize { significand := x.significand / 10, exponent := x.exponent + 1 } zeros
    else x

/-- Numbers that read back as one double: quarter units of its last bit, as a quotient grid. -/
structure ReadBack where
  /-- Four times the significand. -/
  center : Nat
  /-- The end below the center. -/
  low : Nat
  /-- The end above the center. -/
  high : Nat
  /-- Whether the ends read back as well. -/
  closed : Bool
  /-- The quarter unit as numerator. -/
  num : Nat
  /-- The quarter unit as denominator. -/
  den : Nat

/-- Every number nearer to a double than to its neighbours; ties go to even significands. -/
def readBack (x : Double) : ReadBack :=
  let unit := match x.exponent - 2 with
    | .ofNat n => (Nat.pow 2 n, 1)
    | .negSucc n => (1, Nat.pow 2 (n + 1))
  -- Below a power of two the neighbours are twice as dense.
  let narrow := x.significand = Nat.pow 2 52 ∧ -1074 < x.exponent
  { center := 4 * x.significand
    low := if narrow then 4 * x.significand - 1 else 4 * x.significand - 2
    high := 4 * x.significand + 2
    closed := x.significand % 2 = 0
    num := unit.1
    den := unit.2 }

/-- A grid point `multiple * 10 ^ exponent` in the units of a read-back interval. -/
def gridPoint (interval : ReadBack) (multiple : Nat) (exponent : Int) : Nat × Nat :=
  match exponent with
  | .ofNat n => (multiple * Nat.pow 10 n * interval.den, interval.num)
  | .negSucc n => (multiple * interval.den, interval.num * Nat.pow 10 (n + 1))

/-- Whether a grid point reads back as the double in the middle. -/
def ReadBack.holds (interval : ReadBack) (multiple : Nat) (exponent : Int) : Bool :=
  let point := gridPoint interval multiple exponent
  if interval.closed then
    interval.low * point.2 ≤ point.1 && point.1 ≤ interval.high * point.2
  else interval.low * point.2 < point.1 && point.1 < interval.high * point.2

/-- The nearer of the two grid points around a double, if one of them reads back. -/
def onGrid? (interval : ReadBack) (exponent : Int) : Option Scientific :=
  let unit := gridPoint interval 1 exponent
  -- The grid point below the center is the quotient rounded down.
  let below := interval.center * unit.2 / unit.1
  let rest := interval.center * unit.2 % unit.1
  let lowHolds := interval.holds below exponent
  let highHolds := interval.holds (below + 1) exponent
  let nearerLow := 2 * rest < unit.1 || (2 * rest = unit.1 && below % 2 = 0)
  if lowHolds && (nearerLow || !highHolds) then some ⟨below, exponent⟩
  else if highHolds then some ⟨below + 1, exponent⟩
  else none

/-- Tries grids of one digit more each time; seventeen digits always suffice. -/
def shortestFrom (interval : ReadBack) (exponent : Int) : Nat → Scientific
  | 0 => ⟨0, 0⟩
  | tries + 1 =>
    match onGrid? interval exponent with
    | some found => found.normalize 400
    | none => shortestFrom interval (exponent - 1) tries

/-- The decimal with the fewest digits that reads back as a nonzero double. -/
def shortest (x : Double) : Scientific :=
  let interval := readBack x
  shortestFrom interval (floorLogTen (interval.center * interval.num) interval.den) 18

/-- Digits with a point after the first, if more than one digit. -/
def pointed : List Char → List Char
  | first :: second :: rest => first :: '.' :: second :: rest
  | short => short

/-- An exponent with its sign. -/
def signedExponent (n : Int) : List Char :=
  match n with
  | .ofNat n => '+' :: digits n
  | .negSucc n => '-' :: digits (n + 1)

/-- A double in as few digits as read back: positional from 0.00001 up to sixteen digits before
the point, scientific outside, and always with a point or an exponent. -/
def Double.text (x : Double) : List Char :=
  let sign := if x.negative then ['-'] else []
  if x.significand = 0 then sign ++ ['0', '.', '0']
  else
    let decimal := shortest x
    let ds := digits decimal.significand
    let leading : Int := ds.length - 1 + decimal.exponent
    if leading < -5 ∨ 15 < leading then
      sign ++ pointed ds ++ 'e' :: signedExponent leading
    else if leading < 0 then
      sign ++ ['0', '.'] ++ List.replicate (-leading - 1).toNat '0' ++ ds
    else
      let before := (leading + 1).toNat
      let whole := ds.take before ++ List.replicate (before - ds.length) '0'
      let fraction := ds.drop before
      sign ++ whole ++ '.' :: (if fraction.isEmpty then ['0'] else fraction)

end StackPanel.Decimal

/-! Rounding a quotient of natural numbers to the nearest whole number. -/

namespace StackPanel.Decimal

/-- The whole number nearest to a quotient; a half goes to the even neighbour. -/
def roundDiv (num den : Nat) : Nat :=
  let whole := num / den
  let twice := 2 * (num % den)
  if twice < den then whole
  else if den < twice then whole + 1
  else whole + whole % 2

/-- The digits of a natural number in base ten. -/
def digits (n : Nat) : List Char :=
  Nat.toDigits 10 n

/-- The digits of a number, with zeros in front up to a width. -/
def paddedDigits (width n : Nat) : List Char :=
  let text := digits n
  List.replicate (width - text.length) '0' ++ text

/-- A whole number in base ten, with a minus sign if it is negative. -/
def ofInt (n : Int) : List Char :=
  match n with
  | .ofNat n => digits n
  | .negSucc n => '-' :: digits (n + 1)

/-- A number of hundredths or tenths as a decimal with that many places. -/
def fixed (places scaled : Nat) : List Char :=
  let unit := Nat.pow 10 places
  digits (scaled / unit) ++ '.' :: paddedDigits places (scaled % unit)

end StackPanel.Decimal

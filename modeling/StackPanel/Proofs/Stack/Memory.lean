import StackPanel.Proofs.Decimal.Digits
import StackPanel.Proofs.Stack.NearestDouble
import StackPanel.Proofs.Text.Pieces

/-! Amounts of memory are shown in the unit that they reach, rounded to the places of that unit, and
what is shown keeps their order. -/

namespace StackPanel.Display

open Decimal (RoundsTo digits paddedDigits fixed roundDiv)

/-- The number that digits stand for, with a point among them or not. -/
def unsigned? (cs : List Char) : Option ℚ :=
  match Text.splitOnce '.' cs with
  | (whole, none) => (Text.decimal? whole).map fun n : ℕ => (n : ℚ)
  | (whole, some places) => do
    let n ← Text.decimal? whole
    let part ← Text.decimal? places
    return n + part / 10 ^ places.length

/-- The number that digits stand for behind a minus sign or none. -/
def number? : List Char → Option ℚ
  | '-' :: cs => (unsigned? cs).map (- ·)
  | cs => unsigned? cs

/-- The bytes of a unit. -/
def unitBytes? : List Char → Option ℕ
  | ['B'] => some 1
  | ['K', 'B'] => some 1024
  | ['M', 'B'] => some (1024 ^ 2)
  | ['G', 'B'] => some (1024 ^ 3)
  | _ => none

/-- The bytes that a text stands for: a number and a unit after a space. -/
def bytes? (text : String) : Option ℚ :=
  match Text.splitOnce ' ' text.toList with
  | (number, some name) => do return (← number? number) * (← unitBytes? name)
  | (_, none) => none

/-- The texts with a number of digits after the point, and the numbers that they stand for. -/
inductive IsDecimal (places : ℕ) : List Char → ℚ → Prop where
  | intro (whole : ℕ) {part : ℕ} (small : part < 10 ^ places) :
    IsDecimal places (digits whole ++ '.' :: paddedDigits places part) (whole + part / 10 ^ places)

/-- Whether a text shows a quantity with a number of digits after the point in front of a name: the
decimal nearest to it, and the even one of two. -/
def ShowsRounded (quantity : ℚ) (places : ℕ) (name : String) (text : String) : Prop :=
  ∃ (cs : List Char) (k : ℤ), text = String.ofList cs ++ name ∧
    IsDecimal places cs (k * (1 / 10 ^ places)) ∧ RoundsTo (1 / 10 ^ places) quantity k

/-- The text of an amount in a unit. -/
def unitText (places unit : ℕ) (name : String) (amount : ℕ) : String :=
  String.ofList (fixed places (roundDiv (10 ^ places * amount) unit)) ++ name

/-- The bytes that the text of an amount in a unit stands for. -/
def unitShown (places unit amount : ℕ) : ℚ :=
  roundDiv (10 ^ places * amount) unit * (1 / 10 ^ places) * unit

/-- Which text an amount of memory has, by the double that it is converted to. -/
theorem memory_eq (n : ℤ) : memory (some n) =
    if toDouble n < 1024 then toString n ++ " B"
    else if toDouble n < 1024 ^ 2 then unitText 1 1024 " KB" (toDouble n).toNat
    else if toDouble n < 1024 ^ 3 then unitText 1 (1024 ^ 2) " MB" (toDouble n).toNat
    else unitText 2 (1024 ^ 3) " GB" (toDouble n).toNat := by
  cases n with
  | negSucc n =>
    -- A negative number is below every unit.
    have below : toDouble (Int.negSucc n) < 1024 := by
      simp only [toDouble]
      omega
    rw [if_pos below]
    rfl
  | ofNat n =>
    -- A natural number is its own absolute value, and the thresholds are the same over the
    -- integers.
    simp only [memory, toDouble, unitText]
    norm_cast

/-- A whole number of steps is the decimal that its digits make up. -/
theorem isDecimal_fixed (places scaled : ℕ) :
    IsDecimal places (fixed places scaled) (((scaled : ℕ) : ℤ) * (1 / 10 ^ places)) := by
  -- The digits in front of the point are the quotient, and those behind it the remainder.
  have split : scaled / 10 ^ places * 10 ^ places + scaled % 10 ^ places = scaled :=
    Nat.div_add_mod' scaled _
  have small : scaled % 10 ^ places < 10 ^ places := Nat.mod_lt scaled (Nat.pow_pos (by decide))
  have decimal := IsDecimal.intro (scaled / 10 ^ places) small
  have value : (((scaled : ℕ) : ℤ) : ℚ) * (1 / 10 ^ places) =
      ((scaled / 10 ^ places : ℕ) : ℚ) + ((scaled % 10 ^ places : ℕ) : ℚ) / 10 ^ places := by
    have whole : (scaled : ℚ) =
        (scaled / 10 ^ places : ℕ) * 10 ^ places + (scaled % 10 ^ places : ℕ) := by
      exact_mod_cast split.symm
    -- Over the rationals the same division is exact.
    rw [Int.cast_natCast, whole]
    field_simp
  rw [value]
  exact decimal

/-- The quotient of an amount and a unit is rounded to the places of its text. -/
theorem roundsTo_unit (places : ℕ) {unit : ℕ} (positive : 0 < unit) (amount : ℕ) :
    RoundsTo (1 / 10 ^ places) (amount / unit) (roundDiv (10 ^ places * amount) unit : ℕ) := by
  have rounds := Decimal.roundsTo_roundDiv (10 ^ places * amount) positive
    (show (0 : ℚ) < 1 / 10 ^ places by positivity)
  -- Multiplying by the places and dividing by them again leaves the quotient.
  have quotient : ((10 ^ places * amount : ℕ) : ℚ) * (1 / 10 ^ places) / unit = amount / unit := by
    push_cast
    field_simp
  rwa [quotient] at rounds

/-- The text of an amount in a unit shows the quotient of both, rounded. -/
theorem showsRounded_unitText (places : ℕ) {unit : ℕ} (positive : 0 < unit) (name : String)
    (amount : ℕ) :
    ShowsRounded (amount / unit) places name (unitText places unit name amount) :=
  ⟨_, _, rfl, isDecimal_fixed places _, roundsTo_unit places positive amount⟩

/-- Digits stand for their number. -/
theorem unsigned?_digits (n : ℕ) : unsigned? (digits n) = some (n : ℚ) := by
  -- Digits have no point among them, so there is nothing behind one.
  have noPoint : '.' ∉ digits n := Text.notMem_toDigits rfl n
  have read : Text.decimal? (digits n) = some n := Text.decimal?_toDigits n
  simp only [unsigned?, Text.splitOnce_of_notMem noPoint, read, Option.map_some]

/-- A decimal is read as the number that it stands for. -/
theorem unsigned?_of_isDecimal {places : ℕ} (positive : 0 < places) {cs : List Char} {value : ℚ}
    (decimal : IsDecimal places cs value) : unsigned? cs = some value := by
  obtain ⟨whole, small⟩ := decimal
  rename_i part
  -- The point is the first one, since none of the digits in front is a point.
  have noPoint : '.' ∉ digits whole := Text.notMem_toDigits rfl whole
  have front : Text.decimal? (digits whole) = some whole := Text.decimal?_toDigits whole
  have length := Decimal.length_paddedDigits positive small
  -- There are as many digits behind the point as places, and so at least one.
  have filled : paddedDigits places part ≠ [] := by
    rw [← List.length_pos_iff, length]
    exact positive
  have back : Text.decimal? (paddedDigits places part) = some part :=
    Text.decimal?_eq_some_iff.mpr ⟨filled, fun _ => Decimal.isDigit_of_mem_paddedDigits,
      Decimal.decimalValue_paddedDigits places part⟩
  simp only [unsigned?, Text.splitOnce_append noPoint, front, back, length]
  rfl

/-- A number that starts with a digit has no sign. -/
theorem number?_of_digits (n : ℕ) (cs : List Char) :
    number? (digits n ++ cs) = unsigned? (digits n ++ cs) := by
  -- A padded number starts with a digit, even one of a single digit.
  have unsigned : ∀ left, digits n ++ cs ≠ '-' :: left := fun left => by
    rw [← Decimal.paddedDigits_zero]
    exact Decimal.paddedDigits_append_ne rfl 0 n cs left
  unfold number?
  split
  · rename_i left same
    exact absurd same (unsigned left)
  · rfl

/-- A number in front of a unit is read with it. -/
theorem bytes?_append {cs name : List Char} {value : ℚ} {factor : ℕ} {ending : String}
    (noSpace : ' ' ∉ cs) (number : number? cs = some value) (spaced : ending.toList = ' ' :: name)
    (unit : unitBytes? name = some factor) :
    bytes? (String.ofList cs ++ ending) = some (value * (factor : ℚ)) := by
  -- The first space is the one in front of the name.
  have text : (String.ofList cs ++ ending).toList = cs ++ ' ' :: name := by
    rw [String.toList_append, String.toList_ofList, spaced]
  simp only [bytes?, text, Text.splitOnce_append noSpace, number, unit]
  rfl

/-- A whole number stands there with its digits, behind a minus sign if it is negative. -/
theorem toString_eq (n : ℤ) : toString n = String.ofList (Decimal.ofInt n) := by
  cases n with
  | ofNat n => exact Nat.toString_eq_ofList_toDigits
  | negSucc n =>
    -- The sign is written in front of the number that is one more than the constructor holds.
    change "-" ++ toString (n + 1) = String.ofList ('-' :: digits (n + 1))
    rw [Nat.toString_eq_ofList_toDigits, String.ofList_cons]
    rfl

/-- A whole number is read with its sign. -/
theorem number?_ofInt (n : ℤ) : number? (Decimal.ofInt n) = some (n : ℚ) := by
  cases n with
  | ofNat n =>
    -- Without anything behind them the digits are the whole text.
    have plain := number?_of_digits n []
    rw [List.append_nil, unsigned?_digits] at plain
    exact plain
  | negSucc n =>
    simp only [Decimal.ofInt, number?, unsigned?_digits, Option.map_some, Int.cast_negSucc]

/-- The text of a whole number of bytes is read as that number. -/
theorem bytes?_toString (n : ℤ) : bytes? (toString n ++ " B") = some (n : ℚ) := by
  -- Neither digits nor the sign are a space.
  have noSpace : ' ' ∉ Decimal.ofInt n := by
    cases n with
    | ofNat n => exact Text.notMem_toDigits rfl n
    | negSucc n => simpa [Decimal.ofInt, digits] using Text.notMem_toDigits rfl (n + 1)
  -- A byte is the unit that changes nothing.
  have byte : unitBytes? ['B'] = some 1 := rfl
  rw [toString_eq, bytes?_append noSpace (number?_ofInt n) rfl byte, Nat.cast_one, mul_one]

/-- The text of an amount in a unit is read as what it shows. -/
theorem bytes?_unitText {places : ℕ} (positive : 0 < places) {unit : ℕ} {name : List Char}
    {ending : String} (spaced : ending.toList = ' ' :: name)
    (known : unitBytes? name = some unit) (amount : ℕ) :
    bytes? (unitText places unit ending amount) = some (unitShown places unit amount) := by
  -- The decimal has no space in it, and so the unit stands after the first one.
  have decimal := isDecimal_fixed places (roundDiv (10 ^ places * amount) unit)
  have read := unsigned?_of_isDecimal positive decimal
  have noSpace : ' ' ∉ fixed places (roundDiv (10 ^ places * amount) unit) := by
    simp only [fixed, List.mem_append, List.mem_cons, not_or]
    -- Only the digits behind the point are left to look at, and no digit is a space.
    refine ⟨Text.notMem_toDigits rfl _, by decide, fun member => ?_⟩
    have digit := Decimal.isDigit_of_mem_paddedDigits member
    simp at digit
  rw [fixed, ← number?_of_digits, ← fixed] at read
  exact bytes?_append noSpace read spaced known

/-- The bytes that the text of an amount of memory stands for. -/
def shownBytes (n : ℤ) : ℚ :=
  if toDouble n < 1024 then n
  else if toDouble n < 1024 ^ 2 then unitShown 1 1024 (toDouble n).toNat
  else if toDouble n < 1024 ^ 3 then unitShown 1 (1024 ^ 2) (toDouble n).toNat
  else unitShown 2 (1024 ^ 3) (toDouble n).toNat

/-- The text of an amount of memory is read as what it shows. -/
theorem bytes?_memory (n : ℤ) : bytes? (memory (some n)) = some (shownBytes n) := by
  -- The three units with a name of two letters each have a factor of their own.
  have kilo : unitBytes? ['K', 'B'] = some 1024 := rfl
  have mega : unitBytes? ['M', 'B'] = some (1024 ^ 2) := rfl
  have giga : unitBytes? ['G', 'B'] = some (1024 ^ 3) := rfl
  rw [memory_eq, shownBytes]
  -- The text is read in each of the four ranges by the lemma for its unit.
  split_ifs
  · exact bytes?_toString n
  · exact bytes?_unitText Nat.one_pos rfl kilo _
  · exact bytes?_unitText Nat.one_pos rfl mega _
  · exact bytes?_unitText Nat.two_pos rfl giga _

/-- What is shown of an amount in a unit keeps the order of amounts. -/
theorem unitShown_mono (places : ℕ) {unit : ℕ} (positive : 0 < unit) {amount more : ℕ}
    (le : amount ≤ more) : unitShown places unit amount ≤ unitShown places unit more := by
  rcases le.lt_or_eq with less | rfl
  · -- A smaller quotient has no greater nearest step, and equal amounts need nothing.
    have step : (0 : ℚ) < 1 / 10 ^ places := by positivity
    have quotients : (amount / unit : ℚ) < more / unit :=
      div_lt_div_of_pos_right (by exact_mod_cast less) (by exact_mod_cast positive)
    have ordered := ((roundsTo_unit places positive amount).isNearest step).1.le_of_lt
      ((roundsTo_unit places positive more).isNearest step).1 quotients
    exact mul_le_mul_of_nonneg_right (by exact_mod_cast ordered) (Nat.cast_nonneg unit)
  · exact le_refl _

/-- A number of steps that makes up whole units is shown as them. -/
theorem steps_mul (places count unit : ℕ) :
    (((count * 10 ^ places : ℕ) : ℚ) * (1 / 10 ^ places) * unit : ℚ) = count * unit := by
  push_cast
  field_simp

/-- What is shown of an amount in a unit is no less than any whole number of units in it. -/
theorem le_unitShown (places : ℕ) {unit : ℕ} (positive : 0 < unit) {least amount : ℕ}
    (low : least * unit ≤ amount) : (least * unit : ℚ) ≤ unitShown places unit amount := by
  -- Whole units are whole numbers of steps, and rounding does not pass them.
  have steps : least * 10 ^ places ≤ roundDiv (10 ^ places * amount) unit := by
    -- Rounding keeps every whole number of steps below it.
    refine Decimal.le_roundDiv positive ?_
    rw [Nat.mul_comm least, Nat.mul_assoc]
    exact Nat.mul_le_mul_left _ low
  rw [← steps_mul places, unitShown]
  gcongr

/-- What is shown of an amount in a unit is no more than any whole number of units over it. -/
theorem unitShown_le (places : ℕ) {unit : ℕ} (positive : 0 < unit) {most amount : ℕ}
    (high : amount ≤ most * unit) : unitShown places unit amount ≤ (most * unit : ℚ) := by
  -- Whole units are steps again, and rounding does not pass them from below either.
  have steps : roundDiv (10 ^ places * amount) unit ≤ most * 10 ^ places := by
    refine Decimal.roundDiv_le positive ?_
    rw [Nat.mul_comm most, Nat.mul_assoc]
    exact Nat.mul_le_mul_left _ high
  rw [← steps_mul places, unitShown]
  gcongr

/-- A number is less than a unit of bytes if its double is. -/
theorem lt_of_toDouble_lt {n : ℤ} (below : toDouble n < 1024) : n < 1024 := by
  -- The double of the unit is the unit itself, so a number past it has a double past it.
  have unit : toDouble 1024 = 1024 := by
    exact congrArg Int.ofNat (nearestDouble_of_lt (show 1024 < 2 ^ 53 by decide))
  by_contra! above
  have mono := toDouble_mono above
  omega

/-- A number is shown as it is, or in a unit that its double reaches. -/
theorem shownBytes_cases (n : ℤ) :
    (toDouble n < 1024 ∧ shownBytes n = n) ∨ ∃ amount places power : ℕ, toDouble n = amount ∧
      1024 ^ power ≤ amount ∧ shownBytes n = unitShown places (1024 ^ power) amount := by
  unfold shownBytes
  -- The four ranges are those of the definition, with the power of the unit that is reached.
  split_ifs with bytes kilo mega
  · exact .inl ⟨bytes, rfl⟩
  · exact .inr ⟨(toDouble n).toNat, 1, 1, by omega, by omega, by rw [pow_one]⟩
  · exact .inr ⟨(toDouble n).toNat, 1, 2, by omega, by omega, rfl⟩
  · exact .inr ⟨(toDouble n).toNat, 2, 3, by omega, by omega, rfl⟩

/-- A number below a power of 1024 is shown as no more than it. -/
theorem shownBytes_le {n : ℤ} {power : ℕ} (positive : 0 < power)
    (below : toDouble n < 1024 ^ power) : shownBytes n ≤ 1024 ^ power := by
  rcases shownBytes_cases n with ⟨bytes, shown⟩ | ⟨amount, places, unit, double, reached, shown⟩
  · -- Shown as it is the number is less than the first unit, and so than any other.
    have small : (n : ℚ) < 1024 := by exact_mod_cast lt_of_toDouble_lt bytes
    have least : (1024 : ℚ) ≤ 1024 ^ power := le_self_pow₀ (by norm_num) positive.ne'
    rw [shown]
    exact small.le.trans least
  · have amountBelow : amount < 1024 ^ power := by
      rw [double] at below
      exact_mod_cast below
    -- The power is a whole number of the units that the number reaches.
    have exponents : unit < power :=
      (Nat.pow_lt_pow_iff_right (by decide)).mp (reached.trans_lt amountBelow)
    obtain ⟨count, rfl⟩ := Nat.exists_eq_add_of_le' exponents.le
    have split : 1024 ^ (count + unit) = 1024 ^ count * 1024 ^ unit := pow_add _ _ _
    have most := unitShown_le places (by positivity) (split ▸ amountBelow.le)
    rw [shown, pow_add]
    exact_mod_cast most

/-- A number from a power of 1024 on is shown as no less than it. -/
theorem le_shownBytes {n : ℤ} {power : ℕ} (positive : 0 < power)
    (above : 1024 ^ power ≤ toDouble n) : 1024 ^ power ≤ shownBytes n := by
  rcases shownBytes_cases n with ⟨bytes, shown⟩ | ⟨amount, places, unit, double, reached, shown⟩
  · -- A number below every unit cannot have reached one.
    have least : (1024 : ℤ) ≤ 1024 ^ power := le_self_pow₀ (by norm_num) positive.ne'
    omega
  · have amountAbove : 1024 ^ power ≤ amount := by
      rw [double] at above
      exact_mod_cast above
    rw [shown]
    -- The power is a whole number of units if it is as great as the unit, and otherwise below one.
    rcases le_total unit power with exponents | exponents
    · obtain ⟨count, rfl⟩ := Nat.exists_eq_add_of_le' exponents
      have split : 1024 ^ (count + unit) = 1024 ^ count * 1024 ^ unit := pow_add _ _ _
      have least := le_unitShown places (by positivity) (split ▸ amountAbove)
      rw [pow_add]
      exact_mod_cast least
    · -- A smaller power is less than one unit.
      have one : 1 * 1024 ^ unit ≤ amount := by rwa [one_mul]
      have least := le_unitShown places (by positivity) one
      have less : (1024 : ℚ) ^ power ≤ 1024 ^ unit := pow_le_pow_right₀ (by norm_num) exponents
      push_cast at least
      linarith

/-- What is shown keeps the order of amounts, also where the unit changes. -/
theorem shownBytes_mono {m n : ℤ} (le : m ≤ n) : shownBytes m ≤ shownBytes n := by
  have doubles := toDouble_mono le
  have amounts := Int.toNat_le_toNat doubles
  -- A power of 1024 between both doubles divides what is shown, and otherwise the unit is the same.
  have divided : ∀ power : ℕ, 0 < power → toDouble m < 1024 ^ power → 1024 ^ power ≤ toDouble n →
      shownBytes m ≤ shownBytes n := fun power positive below above =>
    (shownBytes_le positive below).trans (le_shownBytes positive above)
  -- From here on the two doubles are compared with the thresholds one after another.
  by_cases bytes : toDouble n < 1024
  · have alsoBytes : toDouble m < 1024 := doubles.trans_lt bytes
    simp only [shownBytes, bytes, alsoBytes, if_true]
    exact_mod_cast le
  -- Between the two doubles lies the first threshold.
  by_cases fewer : toDouble m < 1024
  · exact divided 1 (by decide) (by omega) (by omega)
  by_cases kilo : toDouble n < 1024 ^ 2
  · have alsoKilo : toDouble m < 1024 ^ 2 := doubles.trans_lt kilo
    simp only [shownBytes, bytes, fewer, kilo, alsoKilo, if_true, if_false]
    exact unitShown_mono 1 (by decide) amounts
  -- Between the two doubles lies the second threshold.
  by_cases alsoFewer : toDouble m < 1024 ^ 2
  · exact divided 2 (by decide) alsoFewer (by omega)
  by_cases mega : toDouble n < 1024 ^ 3
  · have alsoMega : toDouble m < 1024 ^ 3 := doubles.trans_lt mega
    simp only [shownBytes, bytes, fewer, kilo, alsoFewer, mega, alsoMega, if_true, if_false]
    exact unitShown_mono 1 (by decide) amounts
  -- Between the two doubles lies the last threshold, or both are past it.
  by_cases stillFewer : toDouble m < 1024 ^ 3
  · exact divided 3 (by decide) stillFewer (by omega)
  · simp only [shownBytes, bytes, fewer, kilo, alsoFewer, mega, stillFewer, if_false]
    exact unitShown_mono 2 (by decide) amounts

/-- An amount of memory is converted to the nearest double. Below the first unit it is shown itself,
and from there on the quotient of the double and the unit that it reaches, rounded to the places of
that unit. What the texts stand for keeps the order of amounts. -/
theorem memory_rounds_in_order :
    (∀ n, IsNearestDouble n (toDouble n)) ∧
    (∀ n, toDouble n < 1024 → memory (some n) = toString n ++ " B") ∧
    (∀ n, 1024 ≤ toDouble n → toDouble n < 1024 ^ 2 →
      ShowsRounded (toDouble n / 1024) 1 " KB" (memory (some n))) ∧
    (∀ n, 1024 ^ 2 ≤ toDouble n → toDouble n < 1024 ^ 3 →
      ShowsRounded (toDouble n / 1024 ^ 2) 1 " MB" (memory (some n))) ∧
    (∀ n, 1024 ^ 3 ≤ toDouble n →
      ShowsRounded (toDouble n / 1024 ^ 3) 2 " GB" (memory (some n))) ∧
    ∀ m n, m ≤ n → ∃ less more, bytes? (memory (some m)) = some less ∧
      bytes? (memory (some n)) = some more ∧ less ≤ more := by
  -- From the first unit on the double is a natural number.
  have amount : ∀ n, 0 ≤ toDouble n → (toDouble n : ℚ) = ((toDouble n).toNat : ℕ) := by
    intro n nonneg
    exact_mod_cast (Int.toNat_of_nonneg nonneg).symm
  refine ⟨isNearestDouble_toDouble, ?_, ?_, ?_, ?_, ?_⟩
  · intro n bytes
    rw [memory_eq, if_pos bytes]
  · intro n reached below
    -- The double has reached the unit, and its text is rounded as the lemma on units says.
    have shows := showsRounded_unitText 1 (show 0 < 1024 by decide) " KB" (toDouble n).toNat
    rw [memory_eq, if_neg (by omega), if_pos below, amount n (by omega)]
    exact_mod_cast shows
  · intro n reached below
    have shows := showsRounded_unitText 1 (show 0 < 1024 ^ 2 by decide) " MB" (toDouble n).toNat
    rw [memory_eq, if_neg (by omega), if_neg (by omega), if_pos below, amount n (by omega)]
    exact_mod_cast shows
  · intro n reached
    have shows := showsRounded_unitText 2 (show 0 < 1024 ^ 3 by decide) " GB" (toDouble n).toNat
    rw [memory_eq, if_neg (by omega), if_neg (by omega), if_neg (by omega), amount n (by omega)]
    exact_mod_cast shows
  · -- The text is read as what it shows, and that keeps the order.
    exact fun m n le => ⟨_, _, bytes?_memory m, bytes?_memory n, shownBytes_mono le⟩

/-- The last amount in one unit is shown as much as the first in the next one, the greatest number
of 64 bits as a power of two, and the least one as it is. -/
theorem unitChange_rounds_in_order :
    memory (some (-2 ^ 63)) = "-9223372036854775808 B" ∧
      ShowsRounded (((1048575 : ℤ) : ℚ) / 1024) 1 " KB" "1024.0 KB" ∧
      ShowsRounded (((1048576 : ℤ) : ℚ) / 1024 ^ 2) 1 " MB" "1.0 MB" ∧
      ShowsRounded (((2 ^ 63 : ℤ) : ℚ) / 1024 ^ 3) 2 " GB" "8589934592.00 GB" ∧
      ∃ less more, bytes? "1024.0 KB" = some less ∧ bytes? "1.0 MB" = some more ∧ less ≤ more := by
  obtain ⟨-, bytes, kilo, mega, giga, ordered⟩ := memory_rounds_in_order
  -- The texts on both sides of each change of units are computed once.
  have last : memory (some 1048575) = "1024.0 KB" := by decide
  have first : memory (some 1048576) = "1.0 MB" := by decide
  have greatest : memory (some (2 ^ 63 - 1)) = "8589934592.00 GB" := by decide
  have doubles : toDouble 1048575 = 1048575 ∧ toDouble 1048576 = 1048576 ∧
      toDouble (2 ^ 63 - 1) = 2 ^ 63 := by decide
  refine ⟨bytes (-2 ^ 63) (by decide), ?_, ?_, ?_, ?_⟩
  · rw [← last, ← doubles.1]
    exact kilo 1048575 (by decide) (by decide)
  · rw [← first, ← doubles.2.1]
    exact mega 1048576 (by decide) (by decide)
  · rw [← greatest, ← doubles.2.2]
    exact giga (2 ^ 63 - 1) (by decide)
  · rw [← last, ← first]
    exact ordered 1048575 1048576 (by decide)

end StackPanel.Display

import Mathlib.Data.List.TakeWhile
import StackPanel.Instant.Reader
import StackPanel.Proofs.Decimal.Digits
import StackPanel.Proofs.Instant.Calendar

/-! Which texts are dates and times with an offset, and which instants they denote. -/

namespace StackPanel.Instant

open Decimal (paddedDigits)
open Text (decimalValue)

/-- Whether a character may stand between date and time. -/
def IsSeparator (c : Char) : Prop :=
  c = 'T' ∨ c = 't' ∨ c = ' '

/-- The fractions of a second and the whole milliseconds of each; there may be none. -/
inductive IsFraction : List Char → Nat → Prop where
  | none : IsFraction [] 0
  | digits {ds : List Char} (filled : ds ≠ []) (digits : ∀ c ∈ ds, c.isDigit = true) :
    IsFraction ('.' :: ds) (decimalValue ds * 1000 / 10 ^ ds.length)

/-- The offsets from Coordinated Universal Time and the minutes by which each is ahead. -/
inductive IsZone : List Char → Int → Prop where
  | utc {mark : Char} (named : mark = 'Z' ∨ mark = 'z') : IsZone [mark] 0
  | ahead {hours minutes : Nat} (inDay : hours < 24) (inHour : minutes < 60) :
    IsZone ('+' :: paddedDigits 2 hours ++ ':' :: paddedDigits 2 minutes) (60 * hours + minutes)
  | behind {sign : Char} {hours minutes : Nat} (minus : sign = '-' ∨ sign = '−')
    (inDay : hours < 24) (inHour : minutes < 60) :
    IsZone (sign :: paddedDigits 2 hours ++ ':' :: paddedDigits 2 minutes)
      (-(60 * hours + minutes))

/-- Whether a text is a complete date and time with an offset, and the instant that it denotes: the
minute that the clocks of Coordinated Universal Time show then, with the second and the whole
milliseconds that the text gives. -/
inductive Denotes : List Char → Instant → Prop where
  | intro {year month day hour minute second millisecond : Nat} {separator : Char}
    {fraction zone : List Char} {ahead : Int} (fourDigits : year < 10000)
    (onCalendar : (Date.mk year month day).isValid = true) (separates : IsSeparator separator)
    (inDay : hour < 24) (inHour : minute < 60) (inMinute : second ≤ 60)
    (isFraction : IsFraction fraction millisecond) (isZone : IsZone zone ahead) :
    Denotes
      (paddedDigits 4 year ++ '-' :: paddedDigits 2 month ++ '-' :: paddedDigits 2 day ++
        separator :: paddedDigits 2 hour ++ ':' :: paddedDigits 2 minute ++
        ':' :: paddedDigits 2 second ++ fraction ++ zone)
      { minute := (Date.mk year month day).toDays * 1440 + (60 * hour + minute) - ahead
        second, millisecond }

variable {cs rest : List Char}

/-- Digits at the front of a text are read one by one, as many as are asked for. -/
theorem readDigits?_eq_some_iff {count value n : Nat} :
    readDigits? count value cs = some (n, rest) ↔
      ∃ ds, ds.length = count ∧ (∀ c ∈ ds, c.isDigit = true) ∧ cs = ds ++ rest ∧
        Nat.ofDigitChars 10 ds value = n := by
  -- The induction is on the digits still asked for, with the value of those already read.
  induction count generalizing cs value with
  | zero => simp [readDigits?, and_comm]
  | succ count ih =>
    cases cs with
    | nil =>
      -- No digits are left to read, though some are asked for.
      simp only [readDigits?, reduceCtorEq, false_iff]
      rintro ⟨ds, length, -, empty, -⟩
      simp [(List.append_eq_nil_iff.mp empty.symm).1] at length
    | cons c others =>
      simp only [readDigits?]
      by_cases digit : c.isDigit = true
      · -- The first digit is read, and its value moves on with those after it.
        rw [if_pos digit, ih]
        constructor
        · rintro ⟨ds, rfl, digits, rfl, rfl⟩
          exact ⟨c :: ds, rfl, List.forall_mem_cons.mpr ⟨digit, digits⟩, rfl, rfl⟩
        · rintro ⟨_ | ⟨first, ds⟩, length, digits, split, rfl⟩
          · simp at length
          · obtain ⟨rfl, rfl⟩ := List.cons.inj split
            exact ⟨ds, by simpa using length, (List.forall_mem_cons.mp digits).2, rfl, rfl⟩
      · rw [if_neg digit]
        -- A character that is no digit ends the reading, and so it cannot be one of the digits.
        simp only [reduceCtorEq, false_iff]
        rintro ⟨_ | ⟨first, ds⟩, length, digits, split, -⟩
        · simp at length
        · obtain ⟨rfl, -⟩ := List.cons.inj split
          exact digit (List.forall_mem_cons.mp digits).1

/-- A number of a fixed width is read from its digits, with zeros in front. -/
theorem readNumber?_eq_some_iff {width n : Nat} (positive : 0 < width) :
    readDigits? width 0 cs = some (n, rest) ↔
      n < 10 ^ width ∧ cs = paddedDigits width n ++ rest := by
  rw [readDigits?_eq_some_iff]
  constructor
  · -- The digits that were read are those of their own value.
    rintro ⟨ds, rfl, digits, rfl, rfl⟩
    have filled : ds ≠ [] := List.length_pos_iff.mp positive
    rw [← Text.decimalValue_eq, Decimal.paddedDigits_decimalValue digits filled]
    exact ⟨Decimal.decimalValue_lt digits, rfl⟩
  · rintro ⟨small, rfl⟩
    exact ⟨_, Decimal.length_paddedDigits positive small,
      fun _ => Decimal.isDigit_of_mem_paddedDigits, rfl, Decimal.decimalValue_paddedDigits _ _⟩

/-- A number is read back from its digits, with zeros in front. -/
theorem readNumber?_append {width n : Nat} (positive : 0 < width) (small : n < 10 ^ width)
    (rest : List Char) : readDigits? width 0 (paddedDigits width n ++ rest) = some (n, rest) :=
  (readNumber?_eq_some_iff positive).mpr ⟨small, rfl⟩

/-- An expected character is read if it is there. -/
theorem expect?_eq_some_iff {expected : Char} :
    expect? expected cs = some rest ↔ cs = expected :: rest := by
  -- Only a text that starts with the character has it to read.
  cases cs with
  | nil => simp [expect?]
  | cons c others => by_cases same : c = expected <;> simp [expect?, same]

/-- A separator is read if it is there. -/
theorem readSeparator?_eq_some_iff :
    readSeparator? cs = some rest ↔ ∃ c, IsSeparator c ∧ cs = c :: rest := by
  unfold readSeparator?
  -- Each of the three separators has a case of its own.
  split
  · simp [IsSeparator]
  · simp [IsSeparator]
  · simp [IsSeparator]
  · simp only [reduceCtorEq, IsSeparator, false_iff]
    rintro ⟨_, rfl | rfl | rfl, rfl⟩ <;> simp at *

/-- The first three digits of a fraction are its whole milliseconds. -/
theorem readDigits?_three {ds : List Char} (filled : ds ≠ [])
    (digits : ∀ c ∈ ds, c.isDigit = true) :
    ∃ others, readDigits? 3 0 (ds ++ ['0', '0']) =
      some (decimalValue ds * 1000 / 10 ^ ds.length, others) := by
  simp only [readDigits?_eq_some_iff]
  -- Zeros stand for the digits that are not there, and digits after the third are cut off.
  match ds with
  | [tenths] =>
    refine ⟨[], [tenths, '0', '0'], rfl, by simpa using digits, rfl, ?_⟩
    simp [decimalValue, Nat.ofDigitChars_cons, Text.digitValue]
    omega
  | [tenths, hundredths] =>
    refine ⟨['0'], [tenths, hundredths, '0'], rfl, by simpa using digits, rfl, ?_⟩
    simp [decimalValue, Nat.ofDigitChars_cons, Text.digitValue]
    omega
  | tenths :: hundredths :: thousandths :: more =>
    refine ⟨more ++ ['0', '0'], [tenths, hundredths, thousandths], rfl, ?_, rfl, ?_⟩
    · exact fun c member => digits c (List.mem_append_left more member)
    · -- Digits after the third make less than one millisecond.
      have small : decimalValue more < 10 ^ more.length :=
        Decimal.decimalValue_lt fun c member =>
          digits c (List.mem_append_right [tenths, hundredths, thousandths] member)
      have split := Decimal.decimalValue_append [tenths, hundredths, thousandths] more
      have length : (tenths :: hundredths :: thousandths :: more).length = more.length + 3 := rfl
      rw [List.cons_append, List.cons_append, List.cons_append, List.nil_append] at split
      rw [split, length, Nat.pow_add, Nat.mul_div_mul_right _ _ (by decide),
        Nat.mul_add_div (Nat.pow_pos (by decide)), Nat.div_eq_of_lt small]
      rfl

/-- What is read as milliseconds is a fraction or nothing. -/
theorem isFraction_of_readMilliseconds? {millisecond : Nat}
    (read : readMilliseconds? cs = some (millisecond, rest)) :
    ∃ fraction, IsFraction fraction millisecond ∧ cs = fraction ++ rest := by
  unfold readMilliseconds? at read
  split at read
  · -- A point is read together with the digits behind it, of which there must be one.
    rename_i others
    have digits : ∀ c ∈ others.takeWhile Char.isDigit, c.isDigit = true := fun _ =>
      List.mem_takeWhile_imp
    by_cases empty : (others.takeWhile Char.isDigit).isEmpty = true
    · simp [empty] at read
    · have filled : others.takeWhile Char.isDigit ≠ [] := by simpa using empty
      obtain ⟨more, three⟩ := readDigits?_three filled digits
      simp only [empty, Bool.false_eq_true, if_false, three, Option.map_some, Option.some.injEq,
        Prod.mk.injEq] at read
      obtain ⟨rfl, rfl⟩ := read
      refine ⟨_, .digits filled digits, ?_⟩
      rw [List.cons_append, List.takeWhile_append_dropWhile]
  · -- Without a point there is no fraction, and the text is left as it was.
    cases read
    exact ⟨[], .none, rfl⟩

/-- A fraction is read up to the first character that is no digit. -/
theorem readMilliseconds?_append {fraction : List Char} {millisecond : Nat}
    (isFraction : IsFraction fraction millisecond)
    (ends : ∀ c, rest.head? = some c → c.isDigit = false ∧ c ≠ '.') :
    readMilliseconds? (fraction ++ rest) = some (millisecond, rest) := by
  -- A fraction that is missing is not to be taken for one that starts behind it.
  cases isFraction with
  | none =>
    cases rest with
    | nil => rfl
    | cons c others => simp [readMilliseconds?, (ends c rfl).2]
  | @digits ds filled digits =>
    -- The digits end where the rest starts, which has no digit in front.
    have stops : rest.takeWhile Char.isDigit = [] ∧ rest.dropWhile Char.isDigit = rest := by
      cases rest with
      | nil => simp
      | cons c others => simp [(ends c rfl).1]
    -- So the digits of the fraction are all that is taken.
    have taken : (ds ++ rest).takeWhile Char.isDigit = ds := by
      rw [List.takeWhile_append_of_pos digits, stops.1, List.append_nil]
    have dropped : (ds ++ rest).dropWhile Char.isDigit = rest := by
      rw [List.dropWhile_append_of_pos digits, stops.2]
    obtain ⟨more, three⟩ := readDigits?_three filled digits
    simp [readMilliseconds?, taken, dropped, filled, three]

/-- An offset after its sign is read if hours and minutes are less than a day and an hour. -/
theorem readOffset?_eq_some_iff {ahead : Int} :
    readOffset? cs = some (ahead, rest) ↔ ∃ hours minutes : Nat, hours < 24 ∧ minutes < 60 ∧
      cs = paddedDigits 2 hours ++ ':' :: paddedDigits 2 minutes ++ rest ∧
      ahead = 60 * hours + minutes := by
  simp only [readOffset?, Option.bind_eq_bind, Option.bind_eq_some_iff, Prod.exists,
    readNumber?_eq_some_iff Nat.two_pos, expect?_eq_some_iff]
  constructor
  · rintro ⟨hours, _, ⟨_, rfl⟩, _, rfl, minutes, left, ⟨_, rfl⟩, done⟩
    -- An offset outside of a day or an hour is refused.
    split_ifs at done with outside
    · cases done
      exact ⟨hours, minutes, by omega, by omega, by simp, by simp⟩
  · rintro ⟨hours, minutes, inDay, inHour, rfl, rfl⟩
    refine ⟨hours, _, ⟨by omega, by rw [List.append_assoc]; rfl⟩, _, rfl, minutes, rest,
      ⟨by omega, rfl⟩, ?_⟩
    rw [if_neg (by omega)]
    rfl

/-- An offset after its sign is read back from its hours and minutes. -/
theorem readOffset?_append {hours minutes : Nat} (inDay : hours < 24) (inHour : minutes < 60)
    (rest : List Char) :
    readOffset? (paddedDigits 2 hours ++ ':' :: paddedDigits 2 minutes ++ rest) =
      some ((60 * hours + minutes : Int), rest) :=
  readOffset?_eq_some_iff.mpr ⟨hours, minutes, inDay, inHour, rfl, rfl⟩

/-- An offset is read if it is there. -/
theorem readZone?_eq_some_iff {ahead : Int} :
    readZone? cs = some (ahead, rest) ↔ ∃ zone, IsZone zone ahead ∧ cs = zone ++ rest := by
  constructor
  · intro read
    unfold readZone? at read
    -- The first character tells which form it is.
    split at read
    · cases read
      exact ⟨['Z'], .utc (.inl rfl), rfl⟩
    · cases read
      exact ⟨['z'], .utc (.inr rfl), rfl⟩
    · obtain ⟨hours, minutes, inDay, inHour, rfl, rfl⟩ := readOffset?_eq_some_iff.mp read
      exact ⟨_, .ahead inDay inHour, rfl⟩
    · obtain ⟨⟨_, _⟩, offset, same⟩ := Option.map_eq_some_iff.mp read
      obtain ⟨hours, minutes, inDay, inHour, rfl, rfl⟩ := readOffset?_eq_some_iff.mp offset
      cases same
      exact ⟨_, .behind (.inl rfl) inDay inHour, rfl⟩
    · obtain ⟨⟨_, _⟩, offset, same⟩ := Option.map_eq_some_iff.mp read
      obtain ⟨hours, minutes, inDay, inHour, rfl, rfl⟩ := readOffset?_eq_some_iff.mp offset
      cases same
      exact ⟨_, .behind (.inr rfl) inDay inHour, rfl⟩
    · simp at read
  · -- Each of the forms starts with a character of its own, by which it is read.
    rintro ⟨_, ⟨rfl | rfl⟩ | ⟨inDay, inHour⟩ | ⟨rfl | rfl, inDay, inHour⟩, rfl⟩
    · rfl
    · rfl
    · exact readOffset?_append inDay inHour rest
    · exact congrArg (Option.map _) (readOffset?_append inDay inHour rest)
    · exact congrArg (Option.map _) (readOffset?_append inDay inHour rest)

/-- A text that denotes an instant has a dash after its year. -/
theorem Denotes.dash_mem {instant : Instant} (denotes : Denotes cs instant) : '-' ∈ cs := by
  obtain ⟨_⟩ := denotes
  -- The grammar puts it there.
  simp

/-- An offset starts with a character that ends a fraction. -/
theorem IsZone.ends {zone : List Char} {ahead : Int} (isZone : IsZone zone ahead) :
    ∀ c, zone.head? = some c → c.isDigit = false ∧ c ≠ '.' := by
  rintro c first
  rcases isZone with ⟨rfl | rfl⟩ | _ | ⟨rfl | rfl, _, _⟩ <;> cases first <;> decide

/-- What is read as an instant denotes it. -/
theorem denotes_of_ofChars? {instant : Instant} (read : ofChars? cs = some instant) :
    Denotes cs instant := by
  unfold ofChars? at read
  -- The parts are read one after another, each from what the one before left.
  obtain ⟨⟨year, _⟩, years, afterYear⟩ := Option.bind_eq_some_iff.mp read
  obtain ⟨_, dash, months⟩ := Option.bind_eq_some_iff.mp afterYear
  obtain ⟨⟨month, _⟩, month', afterMonth⟩ := Option.bind_eq_some_iff.mp months
  obtain ⟨_, secondDash, days⟩ := Option.bind_eq_some_iff.mp afterMonth
  obtain ⟨⟨day, _⟩, day', afterDay⟩ := Option.bind_eq_some_iff.mp days
  obtain ⟨_, separated, hours⟩ := Option.bind_eq_some_iff.mp afterDay
  obtain ⟨⟨hour, _⟩, hour', afterHour⟩ := Option.bind_eq_some_iff.mp hours
  obtain ⟨_, colon, minutes⟩ := Option.bind_eq_some_iff.mp afterHour
  obtain ⟨⟨minute, _⟩, minute', afterMinute⟩ := Option.bind_eq_some_iff.mp minutes
  obtain ⟨_, secondColon, seconds⟩ := Option.bind_eq_some_iff.mp afterMinute
  obtain ⟨⟨second, _⟩, second', afterSecond⟩ := Option.bind_eq_some_iff.mp seconds
  obtain ⟨⟨millisecond, _⟩, milliseconds, zones⟩ := Option.bind_eq_some_iff.mp afterSecond
  obtain ⟨⟨ahead, left⟩, zoned, done⟩ := Option.bind_eq_some_iff.mp zones
  -- So the text is made up of what each part was read from.
  clear read afterYear months afterMonth days afterDay hours afterHour minutes afterMinute seconds
    afterSecond zones
  obtain ⟨fourDigits, rfl⟩ := (readNumber?_eq_some_iff (by decide)).mp years
  obtain rfl := expect?_eq_some_iff.mp dash
  obtain ⟨-, rfl⟩ := (readNumber?_eq_some_iff Nat.two_pos).mp month'
  obtain rfl := expect?_eq_some_iff.mp secondDash
  obtain ⟨-, rfl⟩ := (readNumber?_eq_some_iff Nat.two_pos).mp day'
  obtain ⟨separator, separates, rfl⟩ := readSeparator?_eq_some_iff.mp separated
  obtain ⟨-, rfl⟩ := (readNumber?_eq_some_iff Nat.two_pos).mp hour'
  obtain rfl := expect?_eq_some_iff.mp colon
  obtain ⟨-, rfl⟩ := (readNumber?_eq_some_iff Nat.two_pos).mp minute'
  obtain rfl := expect?_eq_some_iff.mp secondColon
  obtain ⟨-, rfl⟩ := (readNumber?_eq_some_iff Nat.two_pos).mp second'
  obtain ⟨fraction, isFraction, rfl⟩ := isFraction_of_readMilliseconds? milliseconds
  obtain ⟨zone, isZone, rfl⟩ := readZone?_eq_some_iff.mp zoned
  -- Nothing may be left over, and the date and the time have to exist.
  dsimp only at done
  split_ifs at done with inRange
  simp only [Bool.and_eq_true, decide_eq_true_eq, List.isEmpty_iff] at inRange
  obtain ⟨⟨⟨⟨rfl, valid⟩, inDay⟩, inHour⟩, inMinute⟩ := inRange
  cases done
  have denotes := Denotes.intro fourDigits valid separates inDay inHour inMinute isFraction isZone
  simpa only [List.append_assoc, List.cons_append, List.append_nil, Int.natCast_add,
    Int.natCast_mul, Int.cast_ofNat_Int] using denotes

/-- A text that denotes an instant is read as that instant. -/
theorem Denotes.ofChars? {instant : Instant} (denotes : Denotes cs instant) :
    Instant.ofChars? cs = some instant := by
  obtain ⟨fourDigits, valid, separates, inDay, inHour, inMinute, isFraction, isZone⟩ := denotes
  -- Month and day have two digits like the other parts, which are bounded by the grammar.
  obtain ⟨month, day⟩ := Date.month_day_lt valid
  simp only [List.append_assoc, List.cons_append]
  -- Each part is read from the front and leaves the next one there.
  refine Option.bind_eq_some_iff.mpr ⟨_, readNumber?_append (by decide) fourDigits _, ?_⟩
  refine Option.bind_eq_some_iff.mpr ⟨_, expect?_eq_some_iff.mpr rfl, ?_⟩
  refine Option.bind_eq_some_iff.mpr ⟨_, readNumber?_append Nat.two_pos month _, ?_⟩
  refine Option.bind_eq_some_iff.mpr ⟨_, expect?_eq_some_iff.mpr rfl, ?_⟩
  refine Option.bind_eq_some_iff.mpr ⟨_, readNumber?_append Nat.two_pos day _, ?_⟩
  refine Option.bind_eq_some_iff.mpr ⟨_, readSeparator?_eq_some_iff.mpr ⟨_, separates, rfl⟩, ?_⟩
  refine Option.bind_eq_some_iff.mpr ⟨_, readNumber?_append Nat.two_pos (by omega) _, ?_⟩
  refine Option.bind_eq_some_iff.mpr ⟨_, expect?_eq_some_iff.mpr rfl, ?_⟩
  refine Option.bind_eq_some_iff.mpr ⟨_, readNumber?_append Nat.two_pos (by omega) _, ?_⟩
  refine Option.bind_eq_some_iff.mpr ⟨_, expect?_eq_some_iff.mpr rfl, ?_⟩
  refine Option.bind_eq_some_iff.mpr ⟨_, readNumber?_append Nat.two_pos (by omega) _, ?_⟩
  refine Option.bind_eq_some_iff.mpr ⟨_, readMilliseconds?_append isFraction isZone.ends, ?_⟩
  have all := readZone?_eq_some_iff.mpr ⟨_, isZone, (List.append_nil _).symm⟩
  refine Option.bind_eq_some_iff.mpr ⟨_, all, ?_⟩
  -- The text ends there, and the date and the time exist.
  simp [valid, inDay, inHour, inMinute]

/-- A text is read as an instant exactly if it denotes that instant. -/
theorem ofChars?_eq_some_iff {instant : Instant} :
    ofChars? cs = some instant ↔ Denotes cs instant :=
  ⟨denotes_of_ofChars?, Denotes.ofChars?⟩

/-- A text denotes one instant at most. -/
theorem Denotes.unique {one other : Instant} (denotes : Denotes cs one)
    (also : Denotes cs other) : one = other := by
  -- The reader gives one instant for a text.
  rw [← ofChars?_eq_some_iff] at denotes also
  exact Option.some.inj (denotes.symm.trans also)

end StackPanel.Instant

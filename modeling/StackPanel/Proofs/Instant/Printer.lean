import StackPanel.Proofs.Instant.Reader
import StackPanel.Proofs.Text.Trim

/-! The text of an instant: no other instant has it, and it denotes the instant if four digits are
enough for its year. -/

namespace StackPanel.Instant

open Decimal (paddedDigits)

/-- The year in which an instant falls in Coordinated Universal Time. -/
def year (instant : Instant) : Int :=
  (Date.ofDays (instant.minute / 1440)).year

variable {instant : Instant}

/-- A year stands there with its digits, behind a sign if four of them are not enough or it comes
before the year zero. -/
theorem yearText_cases (year : Int) :
    (0 ≤ year ∧ year ≤ 9999) ∧ yearText year = paddedDigits 4 year.natAbs ∨
      year < 0 ∧ yearText year = '-' :: paddedDigits 4 year.natAbs ∨
      9999 < year ∧ yearText year = '+' :: paddedDigits 4 year.natAbs := by
  unfold yearText
  split_ifs with plain negative
  · refine .inl ⟨plain, ?_⟩
    rw [show year.toNat = year.natAbs by omega]
  · refine .inr (.inl ⟨negative, ?_⟩)
    rw [show (-year).toNat = year.natAbs by omega]
  · refine .inr (.inr ⟨by omega, ?_⟩)
    rw [show year.toNat = year.natAbs by omega]

/-- A year is found again from its text, which ends at a dash. -/
theorem yearText_append_inj {year other : Int} {rest left : List Char}
    (same : yearText year ++ '-' :: rest = yearText other ++ '-' :: left) :
    year = other ∧ rest = left := by
  -- Behind equal signs the digits end at the first dash on both sides.
  have digits : paddedDigits 4 year.natAbs ++ '-' :: rest =
      paddedDigits 4 other.natAbs ++ '-' :: left → year.natAbs = other.natAbs ∧ rest = left := by
    intro same
    obtain ⟨number, tail⟩ := Decimal.paddedDigits_append_inj rfl rfl same
    exact ⟨number, (List.cons.inj tail).2⟩
  -- No run of digits starts with a sign.
  have minus := Decimal.paddedDigits_append_ne (show '-'.isDigit = false from rfl) 4
  have plus := Decimal.paddedDigits_append_ne (show '+'.isDigit = false from rfl) 4
  -- Both have the same sign or none, since no digit is a sign.
  rcases yearText_cases year with ⟨range, text⟩ | ⟨range, text⟩ | ⟨range, text⟩ <;>
    rcases yearText_cases other with ⟨also, alike⟩ | ⟨also, alike⟩ | ⟨also, alike⟩ <;>
    rw [text, alike] at same
  · -- The nine cases pair no sign, a minus and a plus, and of these only equal ones can agree.
    obtain ⟨number, tail⟩ := digits same
    exact ⟨by omega, tail⟩
  · exact absurd same (minus _ _ _)
  · exact absurd same (plus _ _ _)
  · exact absurd same.symm (minus _ _ _)
  · obtain ⟨number, tail⟩ := digits (List.cons.inj same).2
    exact ⟨by omega, tail⟩
  · simp at same
  · exact absurd same.symm (plus _ _ _)
  · simp at same
  · obtain ⟨number, tail⟩ := digits (List.cons.inj same).2
    exact ⟨by omega, tail⟩

/-- An instant is found again from its text. -/
theorem chars_injective : Function.Injective chars := by
  intro first second same
  simp only [chars, List.append_assoc, List.cons_append] at same
  -- The parts are told apart by the marks between them.
  -- A year may have more than four digits, and all other parts have a width of their own.
  obtain ⟨years, same⟩ := yearText_append_inj same
  obtain ⟨months, same⟩ := Decimal.paddedDigits_append_inj rfl rfl same
  obtain ⟨days, same⟩ := Decimal.paddedDigits_append_inj rfl rfl (List.cons.inj same).2
  obtain ⟨hours, same⟩ := Decimal.paddedDigits_append_inj rfl rfl (List.cons.inj same).2
  obtain ⟨minutes, same⟩ := Decimal.paddedDigits_append_inj rfl rfl (List.cons.inj same).2
  obtain ⟨seconds, same⟩ := Decimal.paddedDigits_append_inj rfl rfl (List.cons.inj same).2
  obtain ⟨milliseconds, -⟩ := Decimal.paddedDigits_append_inj rfl rfl (List.cons.inj same).2
  -- The day is found from its date, and the minute from the day, the hour and the minute in it.
  have dates : Date.ofDays (first.minute / 1440) = Date.ofDays (second.minute / 1440) := by
    cases one : Date.ofDays (first.minute / 1440)
    cases two : Date.ofDays (second.minute / 1440)
    simp_all only
  have wholeDays : first.minute / 1440 = second.minute / 1440 := by
    rw [← (Date.isValid_toDays_ofDays (first.minute / 1440)).2, dates,
      (Date.isValid_toDays_ofDays _).2]
  -- The minute within the day is told by the hour and the minute of the clock.
  have minute : first.minute = second.minute := by omega
  cases first
  cases second
  simp_all only

/-- The text of an instant holds no white space. -/
theorem isBlank_of_mem_chars {c : Char} (member : c ∈ instant.chars) : Text.isBlank c = false := by
  -- A digit lies between the two bounds of the code points for digits.
  have digit : ∀ width n, c ∈ paddedDigits width n → Text.isBlank c = false := by
    intro width n member
    have range := Char.isDigit_iff_toNat.mp (Decimal.isDigit_of_mem_paddedDigits member)
    simp only [Char.reduceToNat] at range
    simp [Text.isBlank]
    omega
  have years : ∀ year, c ∈ yearText year → Text.isBlank c = false := by
    intro year member
    rcases yearText_cases year with ⟨-, text⟩ | ⟨-, text⟩ | ⟨-, text⟩ <;> rw [text] at member
    · exact digit _ _ member
    · -- Either sign is one more character that is no white space.
      rcases List.mem_cons.mp member with rfl | member
      · rfl
      · exact digit _ _ member
    · rcases List.mem_cons.mp member with rfl | member
      · rfl
      · exact digit _ _ member
  -- The parts are numbers, and the marks between them are no white space either.
  simp only [chars, List.append_assoc, List.cons_append, List.mem_append, List.mem_cons,
    List.not_mem_nil, or_false] at member
  rcases member with member | rfl | member | rfl | member | rfl | member | rfl | member | rfl |
    member | rfl | member | rfl
  · exact years _ member
  all_goals first | rfl | exact digit _ _ member

/-- The text of an instant denotes it if four digits are enough for its year. -/
theorem denotes_chars (fourDigits : 0 ≤ instant.year ∧ instant.year ≤ 9999)
    (inMinute : instant.second ≤ 60) (inSecond : instant.millisecond < 1000) :
    Denotes instant.chars instant := by
  obtain ⟨valid, days⟩ := Date.isValid_toDays_ofDays (instant.minute / 1440)
  -- A year that is not negative is its own natural number.
  have year : ((instant.year.toNat : Nat) : Int) = instant.year := by omega
  have date : Date.ofDays (instant.minute / 1440) = ⟨instant.year.toNat,
      (Date.ofDays (instant.minute / 1440)).month, (Date.ofDays (instant.minute / 1440)).day⟩ := by
    rw [year]
    rfl
  -- Three digits after the point are the milliseconds themselves.
  have isFraction : IsFraction ('.' :: paddedDigits 3 instant.millisecond) instant.millisecond := by
    have length := Decimal.length_paddedDigits (by decide : 0 < 3) inSecond
    have filled : paddedDigits 3 instant.millisecond ≠ [] := by
      rw [← List.length_pos_iff, length]
      decide
    have whole := IsFraction.digits filled fun _ => Decimal.isDigit_of_mem_paddedDigits
    rw [length, Decimal.decimalValue_paddedDigits] at whole
    simpa using whole
  -- The hours of a day and the minutes of an hour are in range whatever the minute is.
  have hour : (instant.minute % 1440).toNat / 60 < 24 := by omega
  have minute : (instant.minute % 1440).toNat % 60 < 60 := Nat.mod_lt _ (by decide)
  rw [date] at valid days
  have denotes := Denotes.intro (by omega) valid (.inl rfl) hour minute inMinute isFraction
    (.utc (.inl rfl))
  have yearText : yearText instant.year = paddedDigits 4 instant.year.toNat := by
    simp [Instant.yearText, fourDigits]
  -- The parts of the text in the order of the grammar.
  have text : instant.chars = paddedDigits 4 instant.year.toNat ++
      '-' :: paddedDigits 2 (Date.ofDays (instant.minute / 1440)).month ++
      '-' :: paddedDigits 2 (Date.ofDays (instant.minute / 1440)).day ++
      'T' :: paddedDigits 2 ((instant.minute % 1440).toNat / 60) ++
      ':' :: paddedDigits 2 ((instant.minute % 1440).toNat % 60) ++
      ':' :: paddedDigits 2 instant.second ++
      '.' :: paddedDigits 3 instant.millisecond ++ ['Z'] := by
    rw [← yearText]
    rfl
  -- The minute is put together again from its day, its hour and the rest.
  have whole : instant.minute = instant.minute / 1440 * 1440 +
      (60 * ((instant.minute % 1440).toNat / 60 : Nat) +
        ((instant.minute % 1440).toNat % 60 : Nat)) - 0 := by
    omega
  rw [days, ← whole] at denotes
  exact text ▸ denotes

/-- The text of an instant denotes none if four digits are not enough for its year. -/
theorem not_denotes_chars (long : ¬(0 ≤ instant.year ∧ instant.year ≤ 9999)) (other : Instant) :
    ¬Denotes instant.chars other := by
  have minus := Decimal.paddedDigits_append_ne (show '-'.isDigit = false from rfl) 4
  have plus := Decimal.paddedDigits_append_ne (show '+'.isDigit = false from rfl) 4
  -- Such a year has a sign in front, where a text that denotes an instant has a digit.
  intro denotes
  generalize text : instant.chars = cs at denotes
  obtain ⟨_⟩ := denotes
  simp only [chars, List.append_assoc] at text
  rcases yearText_cases instant.year with ⟨range, -⟩ | ⟨-, sign⟩ | ⟨-, sign⟩
  · -- A year without a sign is one of four digits.
    exact long range
  · rw [year] at sign
    rw [sign] at text
    exact minus _ _ _ text.symm
  · rw [year] at sign
    rw [sign] at text
    exact plus _ _ _ text.symm

/-- The fraction of a second is less than a second. -/
theorem IsFraction.lt {fraction : List Char} {millisecond : Nat}
    (isFraction : IsFraction fraction millisecond) : millisecond < 1000 := by
  cases isFraction with
  | none => decide
  | digits filled digits =>
    rw [Nat.div_lt_iff_lt_mul (by positivity), Nat.mul_comm]
    exact Nat.mul_lt_mul_of_pos_left (Decimal.decimalValue_lt digits) (by decide)

/-- An instant that a text denotes lies in a minute and a second of that length. -/
theorem Denotes.bounds {cs : List Char} (denotes : Denotes cs instant) :
    instant.second ≤ 60 ∧ instant.millisecond < 1000 := by
  -- The bounds stand among the conditions of the grammar.
  obtain ⟨_, _, _, _, _, inMinute, isFraction, _⟩ := denotes
  exact ⟨inMinute, isFraction.lt⟩

end StackPanel.Instant

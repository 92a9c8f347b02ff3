import Mathlib.Tactic.IntervalCases
import StackPanel.Instant.Calendar

/-! The days counted from 1970-01-01 go from one date of the calendar to the next, so that each
number of days falls on one date and each date on one number of days. -/

namespace StackPanel.Date

/-- The date of the day after. -/
def next (date : Date) : Date :=
  if date.day < daysInMonth date.year date.month then { date with day := date.day + 1 }
  else if date.month < 12 then { date with month := date.month + 1, day := 1 }
  else { year := date.year + 1, month := 1, day := 1 }

/-- The year of a date if years start in March. -/
def marchYear (date : Date) : Int :=
  if date.month ≤ 2 then date.year - 1 else date.year

/-- The months since March. -/
def marchMonth (date : Date) : Int :=
  if date.month ≤ 2 then date.month + 9 else date.month - 3

/-- The days since the first of March. -/
def marchDay (date : Date) : Int :=
  (153 * date.marchMonth + 2) / 5 + date.day - 1

/-- The days from the first of March of the year zero to that of another year. -/
def marchFirst (year : Int) : Int :=
  365 * year + year / 4 - year / 100 + year / 400

variable {date : Date}

/-- A date exists if its month does and has that many days. -/
theorem isValid_iff : date.isValid = true ↔
    (1 ≤ date.month ∧ date.month ≤ 12) ∧ 1 ≤ date.day ∧
      date.day ≤ daysInMonth date.year date.month := by
  simp only [isValid, Bool.and_eq_true, decide_eq_true_eq, and_assoc]

/-- A leap year is a fourth year, but of the hundredth years only a fourth again. -/
theorem isLeapYear_iff {year : Int} :
    isLeapYear year = true ↔ year % 4 = 0 ∧ (year % 100 ≠ 0 ∨ year % 400 = 0) := by
  -- The tests of the two are the same, in the same order.
  simp [isLeapYear]

/-- Days are counted from year to year, and within the year from the first of March. -/
theorem toDays_eq (date : Date) :
    date.toDays = marchFirst date.marchYear + date.marchDay - 719468 := by
  change date.marchYear / 400 * 146097 + (date.marchYear % 400 * 365 +
    date.marchYear % 400 / 4 - date.marchYear % 400 / 100 + date.marchDay) - 719468 = _
  unfold marchFirst
  -- The eras are taken apart by their remainders, and put together again by the quotients.
  omega

/-- A year from March on ends with the leap day of the year after, if that has one. -/
theorem marchFirst_succ (year : Int) :
    marchFirst (year + 1) = marchFirst year + if isLeapYear (year + 1) then 366 else 365 := by
  -- Each quotient grows in the years that it divides.
  have fours : (year + 1) / 4 = year / 4 + if (year + 1) % 4 = 0 then 1 else 0 := by omega
  have hundreds : (year + 1) / 100 = year / 100 + if (year + 1) % 100 = 0 then 1 else 0 := by omega
  have eras : (year + 1) / 400 = year / 400 + if (year + 1) % 400 = 0 then 1 else 0 := by omega
  simp only [marchFirst, fours, hundreds, eras, isLeapYear_iff]
  -- Without the three equations each case is one of linear arithmetic.
  clear fours hundreds eras
  split_ifs <;> omega

/-- The month and the day of a date are found from the days since the first of March. A year has 365
of them, and one more if it ends in February of a leap year. -/
theorem marchDay_cases (valid : date.isValid = true) :
    (5 * date.marchDay + 2) / 153 = date.marchMonth ∧ 0 ≤ date.marchDay ∧
      (date.marchDay < 365 ∨ date.marchDay = 365 ∧ isLeapYear (date.marchYear + 1) = true) := by
  obtain ⟨year, month, day⟩ := date
  obtain ⟨⟨low, high⟩, first, last⟩ := isValid_iff.mp valid
  simp only [marchDay, marchMonth, marchYear] at *
  -- Each month is looked at by itself, February once for each of its two lengths.
  by_cases leap : isLeapYear year = true
  · interval_cases month <;> simp [daysInMonth, leap] at last ⊢ <;> omega
  · interval_cases month <;> simp [daysInMonth, leap] at last ⊢ <;> omega

/-- The year of an era is found from its days. They make up centuries, which make up runs of four
years; a year has a leap day if it is the last of its run, unless it ends the century and not the
era. -/
theorem yearOfEra_eq {century run year day : Int} (inEra : 0 ≤ century ∧ century < 4)
    (inCentury : 0 ≤ run ∧ run < 25) (inRun : 0 ≤ year ∧ year < 4)
    (inYear : 0 ≤ day ∧ (day < 365 ∨ day = 365 ∧ year = 3 ∧ (run < 24 ∨ century = 3))) :
    let dayOfEra := 36524 * century + 1461 * run + 365 * year + day
    0 ≤ dayOfEra ∧ dayOfEra < 146097 ∧
      (dayOfEra - dayOfEra / 1460 + dayOfEra / 36524 - dayOfEra / 146096) / 365 =
        100 * century + 4 * run + year := by
  intro dayOfEra
  have dayOfRun : 365 * year + day ≤ 1460 := by omega
  -- Only the last century of the era ends with a leap day, which is the last day of the era.
  have dayOfCentury : 1461 * run + 365 * year + day < 36524 ∨
      century = 3 ∧ 1461 * run + 365 * year + day = 36524 := by
    rcases inYear with ⟨first, plain | ⟨last, leap, inside⟩⟩ <;> omega
  -- The number is kept as one unknown, which the equation ties to its parts.
  have same : dayOfEra = 36524 * century + 1461 * run + 365 * year + day := rfl
  clear_value dayOfEra
  rcases dayOfCentury with inside | ⟨rfl, last⟩
  · -- The days of the leap years before, and one more on the leap day itself, are taken off.
    have leapDays : dayOfEra / 1460 = 25 * century + run ∨
        dayOfEra / 1460 = 25 * century + run + 1 := by omega
    have centuries : dayOfEra / 36524 = century := by omega
    have eras : dayOfEra / 146096 = 0 := by omega
    refine ⟨by omega, by omega, ?_⟩
    omega
  · -- The last day of the era is its only leap day at the end of a century.
    have lastDay : dayOfEra = 146096 := by omega
    refine ⟨by omega, by omega, ?_⟩
    omega

/-- The date of a day in a year that starts in March. -/
def ofMarch (year day : Int) : Date :=
  let month := (5 * day + 2) / 153
  let civilMonth := if month < 10 then month + 3 else month - 9
  { year := if civilMonth ≤ 2 then year + 1 else year
    month := civilMonth.toNat
    day := (day - (153 * month + 2) / 5 + 1).toNat }

/-- The date of a number of days is found from the era that they reach and the year in it. -/
theorem ofDays_eq {era century run year day : Int} (inEra : 0 ≤ century ∧ century < 4)
    (inCentury : 0 ≤ run ∧ run < 25) (inRun : 0 ≤ year ∧ year < 4)
    (inYear : 0 ≤ day ∧ (day < 365 ∨ day = 365 ∧ year = 3 ∧ (run < 24 ∨ century = 3))) :
    ofDays (146097 * era + (36524 * century + 1461 * run + 365 * year + day) - 719468) =
      ofMarch (100 * century + 4 * run + year + era * 400) day := by
  -- The year of the era is found, and the day in it is what is left over.
  obtain ⟨start, finish, found⟩ := yearOfEra_eq inEra inCentury inRun inYear
  have dayOfYear : 36524 * century + 1461 * run + 365 * year + day -
      (365 * (100 * century + 4 * run + year) + (100 * century + 4 * run + year) / 4 -
        (100 * century + 4 * run + year) / 100) = day := by
    clear start finish found inYear
    omega
  clear inYear inEra inCentury inRun
  generalize 36524 * century + 1461 * run + 365 * year + day = dayOfEra at *
  -- The days of the eras before are a multiple, so they are told from the rest.
  have eras : (146097 * era + dayOfEra - 719468 + 719468) / 146097 = era := by omega
  have days : (146097 * era + dayOfEra - 719468 + 719468) % 146097 = dayOfEra := by omega
  simp only [ofDays, eras, days, found, dayOfYear, ofMarch]

/-- A date is that of its day in its year, from March on. -/
theorem ofMarch_marchDay (valid : date.isValid = true) :
    ofMarch date.marchYear date.marchDay = date := by
  obtain ⟨month, -, -⟩ := marchDay_cases valid
  obtain ⟨⟨low, high⟩, one, -⟩ := isValid_iff.mp valid
  simp only [ofMarch, month]
  obtain ⟨year, civilMonth, day⟩ := date
  -- January and February have come last, in the year before.
  simp only [marchDay, marchMonth, marchYear, Date.mk.injEq] at low high one ⊢
  clear month valid
  by_cases early : civilMonth ≤ 2
  · simp only [early, if_true]
    refine ⟨?_, ?_, ?_⟩ <;> omega
  · simp only [early, if_false]
    refine ⟨?_, ?_, ?_⟩ <;> omega

/-- Dates are found again from their days. -/
theorem ofDays_toDays (valid : date.isValid = true) : ofDays date.toDays = date := by
  obtain ⟨-, first, last⟩ := marchDay_cases valid
  -- The year falls into an era, a century, a run of four years and a place in it.
  obtain ⟨era, century, run, year, split, inEra, inCentury, inRun⟩ :
      ∃ era century run year : Int, date.marchYear = 100 * century + 4 * run + year + era * 400 ∧
        (0 ≤ century ∧ century < 4) ∧ (0 ≤ run ∧ run < 25) ∧ 0 ≤ year ∧ year < 4 := by
    generalize date.marchYear = whole
    exact ⟨whole / 400, whole % 400 / 100, whole % 100 / 4, whole % 4, by omega, by omega, by omega,
      by omega⟩
  -- Only the last year of a run can have a leap day, which the last run of a century may lack.
  have inYear : 0 ≤ date.marchDay ∧ (date.marchDay < 365 ∨
      date.marchDay = 365 ∧ year = 3 ∧ (run < 24 ∨ century = 3)) := by
    refine ⟨first, last.imp_right ?_⟩
    rintro ⟨full, leap⟩
    rw [isLeapYear_iff] at leap
    exact ⟨full, by omega⟩
  have days : date.toDays = 146097 * era +
      (36524 * century + 1461 * run + 365 * year + date.marchDay) - 719468 := by
    clear first last inYear
    rw [toDays_eq, marchFirst]
    omega
  rw [days, ofDays_eq inEra inCentury inRun inYear, ← split, ofMarch_marchDay valid]

/-- Every month has days. -/
theorem one_le_daysInMonth (year : Int) (month : Nat) : 1 ≤ daysInMonth year month := by
  unfold daysInMonth
  split_ifs <;> omega

/-- No month has more than 31 days. -/
theorem daysInMonth_le (year : Int) (month : Nat) : daysInMonth year month ≤ 31 := by
  unfold daysInMonth
  split_ifs <;> omega

/-- Month and day of a date have two digits. -/
theorem month_day_lt (valid : date.isValid = true) : date.month < 100 ∧ date.day < 100 := by
  obtain ⟨⟨-, high⟩, -, last⟩ := isValid_iff.mp valid
  -- Neither a month nor a day of it reaches a hundred.
  have most := daysInMonth_le date.year date.month
  omega

/-- The day after a date exists. -/
theorem isValid_next (valid : date.isValid = true) : date.next.isValid = true := by
  obtain ⟨⟨low, high⟩, -, -⟩ := isValid_iff.mp valid
  rw [isValid_iff]
  unfold next
  split_ifs with more inYear
  · -- One day more is still in the month, or the first of a month that exists.
    exact ⟨⟨low, high⟩, Nat.le_add_left .., more⟩
  · exact ⟨⟨Nat.le_add_left .., inYear⟩, le_refl 1, one_le_daysInMonth ..⟩
  · exact ⟨⟨le_refl 1, Nat.le_add_left ..⟩, le_refl 1, one_le_daysInMonth ..⟩

/-- The day after a date is the next one of the year from March on, or the first of the year after
that. -/
theorem marchDay_next_cases (valid : date.isValid = true) :
    (date.next.marchYear = date.marchYear ∧ date.next.marchDay = date.marchDay + 1) ∨
      (date.next.marchYear = date.marchYear + 1 ∧ date.next.marchDay = 0 ∧
        date.marchDay + 1 = if isLeapYear (date.marchYear + 1) then 366 else 365) := by
  obtain ⟨⟨low, high⟩, -, last⟩ := isValid_iff.mp valid
  obtain ⟨year, month, day⟩ := date
  unfold next
  simp only at low high last ⊢
  by_cases more : day < daysInMonth year month
  · rw [if_pos more]
    refine .inl ⟨rfl, ?_⟩
    -- The month is the same, so the day alone is one more.
    simp only [marchDay, marchMonth]
    omega
  · obtain rfl : day = daysInMonth year month := le_antisymm last (Nat.le_of_not_lt more)
    rw [if_neg more]
    clear valid more last
    by_cases february : month = 2
    · -- The year from March on ends with February.
      subst february
      by_cases leap : isLeapYear year = true
      · simp [marchDay, marchMonth, marchYear, daysInMonth, leap]
      · simp [marchDay, marchMonth, marchYear, daysInMonth, leap]
    · refine .inl ?_
      -- Every other month is as long as the next one is later.
      interval_cases month <;>
        simp [marchDay, marchMonth, marchYear, daysInMonth] at february ⊢

/-- The day after a date is one day later. -/
theorem toDays_next (valid : date.isValid = true) : date.next.toDays = date.toDays + 1 := by
  rw [toDays_eq, toDays_eq]
  -- Within a year the day is one more, and after its last day comes the first of the next.
  rcases marchDay_next_cases valid with ⟨year, day⟩ | ⟨year, day, full⟩
  · rw [year, day]
    omega
  · rw [year, day, marchFirst_succ, ← full]
    omega

/-- Every date is the day after another. -/
theorem exists_next_eq (valid : date.isValid = true) :
    ∃ before : Date, before.isValid = true ∧ before.next = date := by
  obtain ⟨⟨low, high⟩, one, last⟩ := isValid_iff.mp valid
  obtain ⟨year, month, day⟩ := date
  simp only at low high one last
  simp only [isValid_iff]
  -- It comes after a day of its month, after a month of its year, or after a year.
  by_cases later : 1 < day
  · refine ⟨⟨year, month, day - 1⟩, ⟨⟨low, high⟩, Nat.le_sub_of_add_le later, ?_⟩, ?_⟩
    · exact (Nat.sub_le day 1).trans last
    · have inMonth : day - 1 < daysInMonth year month := by omega
      simp [next, inMonth, Nat.sub_add_cancel one]
  · obtain rfl : day = 1 := by omega
    by_cases inYear : 1 < month
    · -- The first of a month comes after the last of the month before.
      refine ⟨⟨year, month - 1, daysInMonth year (month - 1)⟩,
        ⟨⟨Nat.le_sub_of_add_le inYear, (Nat.sub_le month 1).trans high⟩, one_le_daysInMonth ..,
          le_refl _⟩, ?_⟩
      have early : month - 1 < 12 := by omega
      simp [next, early, Nat.sub_add_cancel low]
    · obtain rfl : month = 1 := by omega
      exact ⟨⟨year - 1, 12, 31⟩, by simp [daysInMonth], by simp [next, daysInMonth]⟩

/-- Every number of days falls on a date. -/
theorem exists_toDays_eq (days : Int) :
    ∃ date : Date, date.isValid = true ∧ date.toDays = days := by
  -- From the first day on one date follows another, and before it one date precedes another.
  induction days using Int.induction_on with
  | zero => exact ⟨{ year := 1970, month := 1, day := 1 }, by decide, by decide⟩
  | succ days ih =>
    obtain ⟨date, valid, falls⟩ := ih
    exact ⟨date.next, isValid_next valid, by rw [toDays_next valid, falls]⟩
  | pred days ih =>
    obtain ⟨date, valid, falls⟩ := ih
    obtain ⟨before, isDate, rfl⟩ := exists_next_eq valid
    exact ⟨before, isDate, by rw [toDays_next isDate] at falls; omega⟩

/-- The date of a number of days exists, and is that many days away. -/
theorem isValid_toDays_ofDays (days : Int) :
    (ofDays days).isValid = true ∧ (ofDays days).toDays = days := by
  obtain ⟨date, valid, rfl⟩ := exists_toDays_eq days
  rw [ofDays_toDays valid]
  exact ⟨valid, rfl⟩

end StackPanel.Date

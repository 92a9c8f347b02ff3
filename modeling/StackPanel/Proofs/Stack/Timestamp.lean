import StackPanel.Proofs.Instant.Printer
import StackPanel.Stack.Display

/-! A moment is shown in one form: what is shown stays as it is, and two moments look the same if
they are the same instant. -/

namespace StackPanel.Display

open Instant (Denotes)

/-- The text of an instant is not blank. -/
theorem blank_text (instant : Instant) : Text.blank instant.text = false := by
  -- One letter that is not white space is enough.
  have zulu : 'Z' ∈ instant.chars := by simp [Instant.chars]
  rw [Text.blank, Instant.text, String.toList_ofList, List.all_eq_false]
  exact ⟨'Z', zulu, by decide⟩

/-- A text that denotes an instant is not blank. -/
theorem blank_of_denotes {raw : String} {instant : Instant}
    (denotes : Denotes (Text.trimChars raw.toList) instant) : Text.blank raw = false := by
  -- A blank text is empty once it is trimmed, but what denotes an instant has a dash.
  by_contra blank
  have nothing : Text.trimChars raw.toList = [] := by
    rw [Text.trimChars_eq_nil_iff, ← List.all_eq_true]
    simpa [Text.blank] using blank
  exact List.not_mem_nil (nothing ▸ denotes.dash_mem)

/-- A text that denotes an instant is shown as the text of that instant. -/
theorem timestamp_of_denotes {raw : String} {instant : Instant}
    (denotes : Denotes (Text.trimChars raw.toList) instant) :
    timestamp (some raw) = instant.text := by
  -- The reader finds that instant, so the text is neither blank nor kept.
  simp only [timestamp, blank_of_denotes denotes, Bool.false_eq_true, if_false,
    Instant.ofChars?_eq_some_iff.mpr denotes]

/-- Blank text is shown as missing. -/
theorem timestamp_of_blank {raw : String} (blank : Text.blank raw = true) :
    timestamp (some raw) = missing := by
  simp only [timestamp, blank, if_true]

/-- A text that denotes no instant is shown as it is, unless it is blank. -/
theorem timestamp_of_not_denotes {raw : String} (filled : Text.blank raw = false)
    (unread : ¬∃ instant, Denotes (Text.trimChars raw.toList) instant) :
    timestamp (some raw) = raw := by
  -- Whatever the reader finds would be denoted.
  have none : Instant.ofChars? (Text.trimChars raw.toList) = none := by
    rw [Option.eq_none_iff_forall_ne_some]
    exact fun instant read => unread ⟨instant, Instant.ofChars?_eq_some_iff.mp read⟩
  simp only [timestamp, filled, Bool.false_eq_true, if_false, none]

/-- The text of an instant is already trimmed. -/
theorem trimChars_text (instant : Instant) :
    Text.trimChars instant.text.toList = instant.chars := by
  -- No character of an instant's text is white space.
  rw [Instant.text, String.toList_ofList]
  exact Text.trimChars_of_plain fun _ => Instant.isBlank_of_mem_chars

/-- The text of an instant that a text denotes is shown as it is. -/
theorem timestamp_text {cs : List Char} {instant : Instant} (denotes : Denotes cs instant) :
    timestamp (some instant.text) = instant.text := by
  obtain ⟨inMinute, inSecond⟩ := denotes.bounds
  -- The text is read as the same instant, or it is not read at all and stays as it is.
  by_cases fourDigits : 0 ≤ instant.year ∧ instant.year ≤ 9999
  · -- The year takes four digits, so that the text can be read again.
    have again := Instant.denotes_chars fourDigits inMinute inSecond
    exact timestamp_of_denotes (trimChars_text instant ▸ again)
  · -- A longer year has a sign in front, which no text has that is read.
    refine timestamp_of_not_denotes (blank_text instant) ?_
    rintro ⟨other, reads⟩
    exact Instant.not_denotes_chars fourDigits other (trimChars_text instant ▸ reads)

/-- What is shown of a moment is shown as it is, for every text. Blank text is shown as missing,
text that denotes no instant as it is, and text that denotes one as the text of that instant, which
denotes it again if four digits are enough for its year and else no instant. Two texts that denote
instants are shown alike exactly if they denote the same one. -/
theorem timestamp_canonical :
    (∀ value, timestamp (some (timestamp value)) = timestamp value) ∧
    (∀ first second one other, Denotes (Text.trimChars first.toList) one →
      Denotes (Text.trimChars second.toList) other →
      (timestamp (some first) = timestamp (some second) ↔ one = other)) ∧
    (∀ raw, Text.blank raw = true → timestamp (some raw) = missing) ∧
    (∀ raw, Text.blank raw = false →
      (¬∃ instant, Denotes (Text.trimChars raw.toList) instant) → timestamp (some raw) = raw) ∧
    ∀ raw instant, Denotes (Text.trimChars raw.toList) instant →
      timestamp (some raw) = instant.text ∧ ∀ other,
        Denotes (timestamp (some raw)).toList other ↔
          other = instant ∧ 0 ≤ instant.year ∧ instant.year ≤ 9999 := by
  refine ⟨?_, ?_, ?_, fun raw => timestamp_of_not_denotes, ?_⟩
  · -- What is shown is missing, the text of an instant or the text itself.
    intro value
    cases value with
    | none => rfl
    | some raw =>
      cases filled : Text.blank raw with
      | true =>
        rw [timestamp_of_blank filled]
        rfl
      | false =>
        by_cases reads : ∃ instant, Denotes (Text.trimChars raw.toList) instant
        · obtain ⟨instant, denotes⟩ := reads
          rw [timestamp_of_denotes denotes, timestamp_text denotes]
        · rw [timestamp_of_not_denotes filled reads, timestamp_of_not_denotes filled reads]
  · -- Both are shown as texts of their instants, which are the same only for the same instant.
    intro first second one other denotes alsoDenotes
    rw [timestamp_of_denotes denotes, timestamp_of_denotes alsoDenotes]
    constructor
    · intro same
      exact Instant.chars_injective (String.ofList_injective same)
    · exact congrArg Instant.text
  · -- Blank text is the third case, and text that denotes nothing the fourth.
    exact fun raw => timestamp_of_blank
  · intro raw instant denotes
    obtain ⟨inMinute, inSecond⟩ := denotes.bounds
    -- What is shown is the text of the instant, and the question is how that is read.
    rw [timestamp_of_denotes denotes]
    refine ⟨rfl, fun other => ?_⟩
    rw [Instant.text, String.toList_ofList]
    by_cases fourDigits : 0 ≤ instant.year ∧ instant.year ≤ 9999
    · have again := Instant.denotes_chars fourDigits inMinute inSecond
      constructor
      · exact fun reads => ⟨reads.unique again, fourDigits⟩
      · rintro ⟨rfl, -⟩
        exact again
    · constructor
      · exact fun reads => absurd reads (Instant.not_denotes_chars fourDigits other)
      · exact fun same => absurd same.2 fourDigits

/-- A leap second is the same one in every zone, with any number of digits behind its milliseconds
and whatever stands between date and time, and it is not the second after it. A day that is no date
stays as it is. -/
theorem leapSecond_canonical :
    timestamp (some "2016-12-31T23:59:60.1239Z") =
        timestamp (some " 2017-01-01t08:59:60.123+09:00 ") ∧
      timestamp (some "2016-12-31T23:59:60.1239Z") ≠
        timestamp (some "2017-01-01 00:00:00.123−00:00") ∧
      timestamp (some "9999-12-31T23:59:59-00:01") =
        "+10000-01-01T00:00:59.000Z" ∧
      timestamp (some " 2025-02-29T00:00:00Z") = " 2025-02-29T00:00:00Z" ∧
      timestamp (some " ") = "-" := by
  -- Each of the five texts is read once, and the theorem tells how they are shown.
  obtain ⟨-, alike, blank, kept, shown⟩ := timestamp_canonical
  have reads : ∀ (raw : String) (instant : Instant),
      Instant.ofChars? (Text.trimChars raw.toList) = some instant →
        Denotes (Text.trimChars raw.toList) instant := fun _ _ => Instant.ofChars?_eq_some_iff.mp
  have leap := reads "2016-12-31T23:59:60.1239Z" ⟨24720479, 60, 123⟩ (by decide)
  have ahead := reads " 2017-01-01t08:59:60.123+09:00 " ⟨24720479, 60, 123⟩ (by decide)
  have after := reads "2017-01-01 00:00:00.123−00:00" ⟨24720480, 0, 123⟩ (by decide)
  have far := reads "9999-12-31T23:59:59-00:01" ⟨4223371680, 59, 0⟩ (by decide)
  refine ⟨(alike _ _ _ _ leap ahead).mpr rfl, ?_, (shown _ _ far).1.trans (by decide),
    kept _ (by decide) ?_, blank _ (by decide)⟩
  · -- The second after the leap second is another instant.
    rw [Ne, alike _ _ _ _ leap after]
    decide
  · -- The day does not exist, so the reader refuses the text.
    rintro ⟨instant, denotes⟩
    have unread : Instant.ofChars? (Text.trimChars " 2025-02-29T00:00:00Z".toList) = none := by
      decide
    rw [← Instant.ofChars?_eq_some_iff, unread] at denotes
    simp at denotes

end StackPanel.Display

import StackPanel.Json.Printer
import StackPanel.Json.Reader

/-! Strings inside JSON: whatever is escaped is read back as it was. -/

namespace StackPanel.Json

/-- The four digits that a control character is escaped by stand for its code point. -/
theorem hex?_control {n : Nat} (control : n < 0x20) :
    Text.hex? ['0', '0', Nat.digitChar (n / 16), Nat.digitChar (n % 16)] = some n := by
  -- There are few enough of them to try each one.
  have each : ∀ n : Fin 0x20,
      Text.hex? ['0', '0', Nat.digitChar (n / 16), Nat.digitChar (n % 16)] = some n.val := by
    decide
  exact each ⟨n, control⟩

/-- A character that a backslash and one more character stand for is read back. -/
theorem readText?_simpleEscape {escape c : Char} (simple : simpleEscape? escape = some c)
    (rest : List Char) :
    readText? ('\\' :: escape :: rest) =
      (readText? rest).map fun found => (c :: found.1, found.2) := by
  -- An escape of four digits is none of the simple ones.
  have plain : escape ≠ 'u' := by
    rintro rfl
    simp [simpleEscape?] at simple
  rw [readText?.eq_def]
  simp [simple, plain]

/-- A unit that is no surrogate is read as the character of its number. -/
theorem readText?_unit {a b c d : Char} {unit : Nat} (digits : Text.hex? [a, b, c, d] = some unit)
    (whole : unit < 0xD800 ∨ 0xE000 ≤ unit) (rest : List Char) :
    readText? ('\\' :: 'u' :: a :: b :: c :: d :: rest) =
      (readText? rest).map fun found => (Char.ofNat unit :: found.1, found.2) := by
  -- Half a character would need a second escape, and this is a whole one.
  have single : (decide (unit < 0xD800) || decide (0xE000 ≤ unit)) = true := by simpa using whole
  rw [readText?.eq_def]
  simp only [digits, single, if_true]

/-- A character that needs no escape is read back. -/
theorem readText?_plain {c : Char} (quote : c ≠ '"') (backslash : c ≠ '\\')
    (printed : 0x20 ≤ c.toNat) (rest : List Char) :
    readText? (c :: rest) = (readText? rest).map fun found => (c :: found.1, found.2) := by
  -- It neither ends the string nor starts an escape.
  have visible : ¬c.toNat < 0x20 := by omega
  rw [readText?.eq_def]
  simp [backslash, visible]

/-- A character is read back from how it is written. -/
theorem readText?_escapeChar (c : Char) (rest : List Char) :
    readText? (escapeChar c ++ rest) =
      (readText? rest).map fun found => (c :: found.1, found.2) := by
  -- The cases are those of the writer, and each is one way of reading.
  unfold escapeChar
  by_cases quote : c = '"'
  · subst quote
    exact readText?_simpleEscape rfl rest
  by_cases backslash : c = '\\'
  · subst backslash
    exact readText?_simpleEscape rfl rest
  by_cases control : c.toNat < 0x20
  · -- Five control characters have a letter of their own, and the others are written by number.
    have ofCode : ∀ n, c.toNat = n → c = Char.ofNat n := by
      rintro n rfl
      exact (Char.ofNat_toNat c).symm
    simp only [quote, backslash, control, if_false, if_true]
    by_cases backspace : c.toNat = 8
    · rw [if_pos backspace, ofCode 8 backspace]
      exact readText?_simpleEscape rfl rest
    by_cases tab : c = '\t'
    · subst tab
      exact readText?_simpleEscape rfl rest
    by_cases line : c = '\n'
    · subst line
      exact readText?_simpleEscape rfl rest
    by_cases feed : c.toNat = 12
    · rw [if_neg backspace, if_neg tab, if_neg line, if_pos feed, ofCode 12 feed]
      exact readText?_simpleEscape rfl rest
    by_cases turn : c = '\r'
    · subst turn
      exact readText?_simpleEscape rfl rest
    · simp only [backspace, tab, line, feed, turn, if_false]
      have read := readText?_unit (hex?_control control) (.inl (by omega)) rest
      rwa [Char.ofNat_toNat] at read
  · simp only [quote, backslash, control, if_false]
    exact readText?_plain quote backslash (by omega) rest

/-- Characters are read back up to the quote that closes them. -/
theorem readText?_flatMap_escapeChar (cs rest : List Char) :
    readText? (cs.flatMap escapeChar ++ '"' :: rest) = some (cs, rest) := by
  induction cs with
  | nil =>
    rw [readText?.eq_def]
    rfl
  | cons c cs ih =>
    -- The first character is read from its own escape, and the rest follows.
    rw [List.flatMap_cons, List.append_assoc, readText?_escapeChar, ih]
    rfl

/-- A text is written as its characters between quotes. -/
theorem printText_append (value : String) (rest : List Char) :
    printText value ++ rest = '"' :: (value.toList.flatMap escapeChar ++ '"' :: rest) := by
  simp [printText]

end StackPanel.Json

import StackPanel.Proofs.Json.Text

/-! How the characters of a string can be spelled between its quotes: reading accepts exactly the
spellings, and what is written is one of them. -/

namespace StackPanel.Json

/-- The letters that stand for a character after a backslash, each with that character. -/
def letterEscapes : List (Char × Char) :=
  [('"', '"'), ('\\', '\\'), ('/', '/'), ('b', '\x08'), ('f', '\x0c'), ('n', '\n'), ('r', '\r'),
    ('t', '\t')]

/-- Whether characters are spelled in some way: as they are if they are no controls, quotes or
backslashes, by a letter, by the number of one unit, or by those of two units that make a pair. -/
inductive Spells : List Char → List Char → Prop where
  | nothing : Spells [] []
  | plain {c : Char} {spelled cs : List Char} (quote : c ≠ '"') (backslash : c ≠ '\\')
    (printed : 0x20 ≤ c.toNat) (rest : Spells spelled cs) : Spells (c :: spelled) (c :: cs)
  | letter {escape c : Char} {spelled cs : List Char} (means : (escape, c) ∈ letterEscapes)
    (rest : Spells spelled cs) : Spells ('\\' :: escape :: spelled) (c :: cs)
  | unit {a b c d : Char} {unit : Nat} {spelled cs : List Char}
    (digits : Text.hex? [a, b, c, d] = some unit) (whole : unit < 0xD800 ∨ 0xE000 ≤ unit)
    (rest : Spells spelled cs) :
    Spells ('\\' :: 'u' :: a :: b :: c :: d :: spelled) (Char.ofNat unit :: cs)
  | pair {a b c d e f g h : Char} {high low : Nat} {spelled cs : List Char}
    (first : Text.hex? [a, b, c, d] = some high) (second : Text.hex? [e, f, g, h] = some low)
    (isHigh : 0xD800 ≤ high ∧ high < 0xDC00) (isLow : 0xDC00 ≤ low ∧ low < 0xE000)
    (rest : Spells spelled cs) :
    Spells ('\\' :: 'u' :: a :: b :: c :: d :: '\\' :: 'u' :: e :: f :: g :: h :: spelled)
      (Char.ofNat (0x10000 + 0x400 * (high - 0xD800) + (low - 0xDC00)) :: cs)

/-- A letter stands for the character that it is listed with. -/
theorem simpleEscape?_eq_some_iff {escape c : Char} :
    simpleEscape? escape = some c ↔ (escape, c) ∈ letterEscapes := by
  constructor
  · intro means
    unfold simpleEscape? at means
    -- One letter after the other is looked for, and past the last nothing is meant.
    repeat' split at means
    all_goals simp_all [letterEscapes]
    all_goals exact means ▸ rfl
  · intro listed
    -- Each of the eight letters is looked up.
    simp only [letterEscapes, List.mem_cons, Prod.mk.injEq, List.not_mem_nil, or_false] at listed
    rcases listed with ⟨rfl, rfl⟩ | ⟨rfl, rfl⟩ | ⟨rfl, rfl⟩ | ⟨rfl, rfl⟩ | ⟨rfl, rfl⟩ |
      ⟨rfl, rfl⟩ | ⟨rfl, rfl⟩ | ⟨rfl, rfl⟩ <;> rfl

/-- Two units stand for a character only as a pair. -/
theorem pairCodePoint?_eq_some_iff {high low code : Nat} :
    pairCodePoint? high low = some code ↔
      (0xD800 ≤ high ∧ high < 0xDC00) ∧ (0xDC00 ≤ low ∧ low < 0xE000) ∧
        code = 0x10000 + 0x400 * (high - 0xD800) + (low - 0xDC00) := by
  simp only [pairCodePoint?, Option.ite_none_right_eq_some, Option.some.injEq, Bool.and_eq_true,
    decide_eq_true_eq]
  constructor
  · rintro ⟨⟨⟨⟨fromHigh, belowLow⟩, fromLow⟩, belowEnd⟩, same⟩
    exact ⟨⟨fromHigh, belowLow⟩, ⟨fromLow, belowEnd⟩, same.symm⟩
  · rintro ⟨⟨fromHigh, belowLow⟩, ⟨fromLow, belowEnd⟩, same⟩
    exact ⟨⟨⟨⟨fromHigh, belowLow⟩, fromLow⟩, belowEnd⟩, same.symm⟩

/-- Two units that make a pair are read as one character. -/
theorem readText?_pair {a b c d e f g h : Char} {high low : Nat}
    (first : Text.hex? [a, b, c, d] = some high) (second : Text.hex? [e, f, g, h] = some low)
    (isHigh : 0xD800 ≤ high ∧ high < 0xDC00) (isLow : 0xDC00 ≤ low ∧ low < 0xE000)
    (rest : List Char) :
    readText? ('\\' :: 'u' :: a :: b :: c :: d :: '\\' :: 'u' :: e :: f :: g :: h :: rest) =
      (readText? rest).map fun found =>
        (Char.ofNat (0x10000 + 0x400 * (high - 0xD800) + (low - 0xDC00)) :: found.1,
          found.2) := by
  -- The first unit alone would be half a character.
  have half : (decide (high < 0xD800) || decide (0xE000 ≤ high)) = false := by
    simp only [Bool.or_eq_false_iff, decide_eq_false_iff_not]
    omega
  -- Both units together are a code point beyond those of four digits.
  have joined := pairCodePoint?_eq_some_iff.mpr ⟨isHigh, isLow, rfl⟩
  rw [readText?.eq_def]
  simp only [first, half, Bool.false_eq_true, if_false, second, Option.bind_some, joined]

/-- Every spelling is read as the characters that it spells, up to the closing quote. -/
theorem Spells.readText? {spelled cs : List Char} (spells : Spells spelled cs)
    (rest : List Char) : Json.readText? (spelled ++ '"' :: rest) = some (cs, rest) := by
  -- Each way to spell a character is one way to read it.
  induction spells with
  | nothing =>
    rw [Json.readText?.eq_def]
    rfl
  | plain quote backslash printed _ ih =>
    -- A character that stands for itself is one step of the reader.
    rw [List.cons_append, readText?_plain quote backslash printed, ih]
    rfl
  | letter means _ ih =>
    have simple := simpleEscape?_eq_some_iff.mpr means
    rw [List.cons_append, List.cons_append, readText?_simpleEscape simple, ih]
    rfl
  | unit digits whole _ ih =>
    simp only [List.cons_append]
    rw [readText?_unit digits whole, ih]
    rfl
  | pair first second isHigh isLow _ ih =>
    simp only [List.cons_append]
    rw [readText?_pair first second isHigh isLow, ih]
    rfl

/-- Characters found behind a first one were found without it as well. -/
theorem exists_of_map_cons {found : Option (List Char × List Char)} {c : Char}
    {cs rest : List Char}
    (read : (found.map fun found => (c :: found.1, found.2)) = some (cs, rest)) :
    ∃ tail, found = some (tail, rest) ∧ cs = c :: tail := by
  -- The pair that was found has the first character in front.
  obtain ⟨⟨tail, _⟩, same, pair⟩ := Option.map_eq_some_iff.mp read
  obtain ⟨rfl, rfl⟩ := Prod.mk.inj pair
  exact ⟨tail, same, rfl⟩

/-- What is read as a string is a spelling of it and its closing quote. -/
theorem spells_of_readText? {text cs rest : List Char} (read : readText? text = some (cs, rest)) :
    ∃ spelled, text = spelled ++ '"' :: rest ∧ Spells spelled cs := by
  -- The cases are those of the reader; where it gives up there is nothing to show.
  fun_induction readText? text generalizing cs with
  | case1 | case3 | case6 | case7 | case9 | case10 => contradiction
  | case2 after =>
    -- The closing quote ends the string.
    obtain ⟨rfl, rfl⟩ := Prod.mk.inj (Option.some.inj read)
    exact ⟨[], rfl, .nothing⟩
  -- One unit that is no half of a pair stands for itself.
  | case4 a b c d after unit digits whole ih =>
    obtain ⟨tail, later, rfl⟩ := exists_of_map_cons read
    obtain ⟨spelled, rfl, spells⟩ := ih later
    exact ⟨_, rfl, .unit digits (by simpa using whole) spells⟩
  | case5 a b c d high first surrogate e f g h after code paired ih =>
    obtain ⟨tail, later, rfl⟩ := exists_of_map_cons read
    obtain ⟨spelled, rfl, spells⟩ := ih later
    -- The two units made a character, so they are one of each half.
    obtain ⟨low, second, joined⟩ := Option.bind_eq_some_iff.mp paired
    obtain ⟨isHigh, isLow, same⟩ := pairCodePoint?_eq_some_iff.mp joined
    rw [same]
    exact ⟨_, rfl, .pair first second isHigh isLow spells⟩
  | case8 escape after other c simple ih =>
    -- A letter after a backslash is one of the listed ones.
    obtain ⟨tail, later, rfl⟩ := exists_of_map_cons read
    obtain ⟨spelled, rfl, spells⟩ := ih later
    exact ⟨_, rfl, .letter (simpleEscape?_eq_some_iff.mp simple) spells⟩
  | case11 c after notQuote noUnit noEscape plain ih =>
    obtain ⟨tail, later, rfl⟩ := exists_of_map_cons read
    obtain ⟨spelled, rfl, spells⟩ := ih later
    -- All that is left are the characters that stand for themselves.
    have visible : ¬c = '\\' ∧ 0x20 ≤ c.toNat := by simpa using plain
    exact ⟨_, rfl, .plain notQuote visible.1 visible.2 spells⟩

/-- A string is written as one of its spellings. -/
theorem spells_flatMap_escapeChar (cs : List Char) : Spells (cs.flatMap escapeChar) cs := by
  -- It is read back, and only spellings are.
  obtain ⟨spelled, text, spells⟩ := spells_of_readText? (readText?_flatMap_escapeChar cs [])
  rw [List.append_cancel_right text]
  exact spells

end StackPanel.Json

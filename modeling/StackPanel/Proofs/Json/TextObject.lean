import StackPanel.Proofs.Json.RoundTrip
import StackPanel.Proofs.Json.Spelling

/-! The texts that are one object of strings: reading finds the fields of exactly these, and an
object of strings is written as one of them. -/

namespace StackPanel.Json

/-- Whether a text is a string in quotes, with gaps around it. -/
def Quotes (text : List Char) (value : String) : Prop :=
  ∃ before spelled after, IsGap before ∧ IsGap after ∧ Spells spelled value.toList ∧
    text = before ++ '"' :: (spelled ++ '"' :: after)

/-- Whether a text lists fields with strings for values, separated by commas. -/
inductive ListsFields : List Char → List (String × String) → Prop where
  | last {name content : List Char} {key value : String} (named : Quotes name key)
    (holds : Quotes content value) : ListsFields (name ++ ':' :: content) [(key, value)]
  | more {name content others : List Char} {key value : String} {pairs : List (String × String)}
    (named : Quotes name key) (holds : Quotes content value) (rest : ListsFields others pairs) :
    ListsFields (name ++ ':' :: (content ++ ',' :: others)) ((key, value) :: pairs)

/-- Whether a text is one object of strings and nothing else, with these fields as written. -/
def IsTextObject (text : List Char) (pairs : List (String × String)) : Prop :=
  ∃ before inside after, IsGap before ∧ IsGap after ∧
    text = before ++ '\x7b' :: (inside ++ '\x7d' :: after) ∧
    (IsGap inside ∧ pairs = [] ∨ ListsFields inside pairs)

/-- Fields with strings for values. -/
def textFields (pairs : List (String × String)) : List (String × Json) :=
  pairs.map fun pair => (pair.1, .text pair.2)

/-- A quoted string is what a gap leaves, its quotes around the spelling. -/
theorem Quotes.skipGap_append {text : List Char} {value : String} (quotes : Quotes text value)
    (rest : List Char) : ∃ spelled after, IsGap after ∧ Spells spelled value.toList ∧
      skipGap (text ++ rest) = '"' :: (spelled ++ '"' :: (after ++ rest)) := by
  obtain ⟨before, spelled, after, front, back, spells, rfl⟩ := quotes
  refine ⟨spelled, after, back, spells, ?_⟩
  -- The gap in front is skipped, and the one behind is left for the next token.
  simpa using Json.skipGap_append front (c := '"') (by decide) (spelled ++ '"' :: (after ++ rest))

/-- A number is no string. -/
theorem NumberToken.value?_ne_text (token : NumberToken) (value : String) :
    token.value? ≠ some (.text value) := by
  -- It is whole or not, and either is a value of its own kind.
  have real : token.double?.map Json.real ≠ some (Json.text value) := by
    cases token.double? <;> simp
  simp only [NumberToken.value?]
  split
  · exact real
  · split <;> split <;> first | exact real | simp

/-- A value is only read as a string behind an opening quote. -/
theorem readText?_of_readValue? {fuel depth : Nat} {cs rest : List Char} {value : String}
    (read : readValue? fuel depth cs = some (.text value, rest)) :
    ∃ after, skipGap cs = '"' :: after ∧ readText? after = some (value.toList, rest) := by
  cases fuel with
  | zero => simp [readValue?] at read
  | succ fuel =>
    rw [readValue?] at read
    -- The first character after the gap decides on the kind of value.
    split at read
    · simp at read
    · simp at read
    · simp at read
    · next after quote =>
      obtain ⟨⟨content, _⟩, found, pair⟩ := Option.map_eq_some_iff.mp read
      obtain ⟨text, rfl⟩ := Prod.mk.inj pair
      refine ⟨after, quote, ?_⟩
      rw [← Json.text.inj text, String.toList_ofList, found]
    · -- A bracket or a brace opens a container, and no string.
      repeat' split at read
      all_goals simp at read
    · repeat' split at read
      all_goals simp [ofFields] at read
    · -- Anything else is a number, if it is a value at all.
      split at read
      · next token after number =>
        obtain ⟨_, stands, pair⟩ := Option.map_eq_some_iff.mp read
        obtain ⟨rfl, _⟩ := Prod.mk.inj pair
        exact absurd stands (token.value?_ne_text value)
      · contradiction

/-- What is read as a string, up to the next token, is one in quotes. -/
theorem quotes_of_readText? {cs after rest tail : List Char} {value : String} {c : Char}
    (quote : skipGap cs = '"' :: after) (read : readText? after = some (value.toList, rest))
    (token : skipGap rest = c :: tail) : ∃ text, Quotes text value ∧ cs = text ++ c :: tail := by
  -- What was skipped on either side are the gaps around the quotes.
  obtain ⟨front, isFront, before⟩ := exists_gap cs
  obtain ⟨back, isBack, behind⟩ := exists_gap rest
  obtain ⟨spelled, rfl, spells⟩ := spells_of_readText? read
  refine ⟨front ++ '"' :: (spelled ++ '"' :: back),
    ⟨front, spelled, back, isFront, isBack, spells, rfl⟩, ?_⟩
  rw [before, quote, behind, token]
  simp

/-- A value that is read as a string, up to the next token, is one in quotes. -/
theorem quotes_of_readValue? {fuel depth : Nat} {cs rest tail : List Char} {value : String}
    {c : Char} (read : readValue? fuel depth cs = some (.text value, rest))
    (token : skipGap rest = c :: tail) : ∃ text, Quotes text value ∧ cs = text ++ c :: tail := by
  obtain ⟨after, quote, content⟩ := readText?_of_readValue? read
  exact quotes_of_readText? quote content token

/-- Fields with strings for values are so one by one. -/
theorem textFields_eq_cons {pairs : List (String × String)} {key : String} {field : Json}
    {fields : List (String × Json)} (same : textFields pairs = (key, field) :: fields) :
    ∃ value others, pairs = (key, value) :: others ∧ field = .text value ∧
      fields = textFields others := by
  obtain ⟨⟨name, value⟩, others, rfl, first, rest⟩ := List.map_eq_cons_iff.mp same
  obtain ⟨rfl, rfl⟩ := Prod.mk.inj first
  exact ⟨value, others, rfl, rfl, rest.symm⟩

/-- A string in quotes is read. -/
theorem Quotes.readValue? {text : List Char} {value : String} (quotes : Quotes text value)
    (fuel depth : Nat) (rest : List Char) :
    ∃ after, IsGap after ∧
      Json.readValue? (fuel + 1) depth (text ++ rest) = some (.text value, after ++ rest) := by
  obtain ⟨spelled, after, back, spells, shape⟩ := quotes.skipGap_append rest
  refine ⟨after, back, ?_⟩
  rw [Json.readValue?, shape]
  simp [spells.readText?]

/-- Fields that are read start with a quoted name, a colon and a value, which the closing brace or
a comma and other fields follow. -/
theorem readFields?_cases {fuel depth : Nat} {cs rest : List Char} {fields : List (String × Json)}
    (read : readFields? (fuel + 1) depth cs = some (fields, rest)) :
    ∃ afterQuote key afterName afterColon field afterValue,
      skipGap cs = '"' :: afterQuote ∧ readText? afterQuote = some (key, afterName) ∧
      skipGap afterName = ':' :: afterColon ∧
      readValue? fuel depth afterColon = some (field, afterValue) ∧
      (skipGap afterValue = '\x7d' :: rest ∧ fields = [(String.ofList key, field)] ∨
        ∃ following others, skipGap afterValue = ',' :: following ∧
          readFields? fuel depth following = some (others, rest) ∧
          fields = (String.ofList key, field) :: others) := by
  -- Where a part is missing nothing is read.
  rw [readFields?] at read
  split at read
  case h_2 => contradiction
  next afterQuote quote =>
  split at read
  case h_1 => contradiction
  next key afterName named =>
  split at read
  case h_2 => contradiction
  next afterColon colon =>
  split at read
  case h_1 => contradiction
  next field afterValue valued =>
  refine ⟨afterQuote, key, afterName, afterColon, field, afterValue, quote, named, colon, valued,
    ?_⟩
  -- Behind the value only a brace or a comma goes on.
  split at read
  · next brace =>
    obtain ⟨rfl, rfl⟩ := Prod.mk.inj (Option.some.inj read)
    exact .inl ⟨brace, rfl⟩
  · next following comma =>
    obtain ⟨⟨others, _⟩, later, pair⟩ := Option.map_eq_some_iff.mp read
    obtain ⟨rfl, rfl⟩ := Prod.mk.inj pair
    exact .inr ⟨following, others, comma, later, rfl⟩
  · contradiction

/-- Fields that are read and have strings for values are listed, up to the closing brace. -/
theorem listsFields_of_readFields? {fuel depth : Nat} {cs rest : List Char}
    {pairs : List (String × String)}
    (read : readFields? fuel depth cs = some (textFields pairs, rest)) :
    ∃ inside, ListsFields inside pairs ∧ cs = inside ++ '\x7d' :: rest := by
  -- Each unit of fuel reads one field, and the others with what is left.
  induction fuel generalizing cs pairs with
  | zero => simp [readFields?] at read
  | succ fuel ih =>
    obtain ⟨afterQuote, key, afterName, afterColon, field, afterValue, quote, named, colon, valued,
      ends⟩ := readFields?_cases read
    have spelled : readText? afterQuote = some ((String.ofList key).toList, afterName) := by
      rw [named, String.toList_ofList]
    obtain ⟨name, nameQuotes, shape⟩ := quotes_of_readText? quote spelled colon
    rcases ends with ⟨brace, fields⟩ | ⟨following, others, comma, later, fields⟩
    · obtain ⟨value, others, rfl, rfl, none⟩ := textFields_eq_cons fields
      obtain ⟨content, quotes, rfl⟩ := quotes_of_readValue? valued brace
      rw [List.map_eq_nil_iff.mp none.symm]
      exact ⟨_, .last nameQuotes quotes, by simp [shape]⟩
    · obtain ⟨value, others, rfl, rfl, rfl⟩ := textFields_eq_cons fields
      obtain ⟨content, quotes, rfl⟩ := quotes_of_readValue? valued comma
      obtain ⟨inside, lists, rfl⟩ := ih later
      exact ⟨_, .more nameQuotes quotes lists, by simp [shape]⟩

/-- A quoted name, a colon and a quoted string are read as a field, and the token after them tells
whether others follow. -/
theorem readFields?_of_quotes {name content : List Char} {key value : String}
    (named : Quotes name key) (holds : Quotes content value) (fuel depth : Nat) {c : Char}
    (solid : isGap c = false) (rest : List Char) :
    readFields? (fuel + 2) depth (name ++ ':' :: (content ++ c :: rest)) =
      if c = '\x7d' then some ([(key, .text value)], rest)
      else if c = ',' then
        (readFields? (fuel + 1) depth rest).map fun found =>
          ((key, .text value) :: found.1, found.2)
      else none := by
  obtain ⟨spelled, after, back, spells, quote⟩ := named.skipGap_append (':' :: (content ++ c :: rest))
  obtain ⟨gap, between, valued⟩ := holds.readValue? fuel depth (c :: rest)
  have colon : skipGap (after ++ ':' :: (content ++ c :: rest)) = ':' :: (content ++ c :: rest) :=
    skipGap_append back (by decide) _
  have token : skipGap (gap ++ c :: rest) = c :: rest := skipGap_append between solid rest
  rw [readFields?, quote]
  simp only [spells.readText?, colon, valued, token, String.ofList_toList]
  -- The first character after the value is the token.
  split
  · next brace =>
    obtain ⟨rfl, rfl⟩ := List.cons.inj brace
    simp
  · next comma =>
    obtain ⟨rfl, rfl⟩ := List.cons.inj comma
    simp
  · next noBrace noComma =>
    have other : c ≠ '\x7d' := fun same => noBrace rest (same ▸ rfl)
    have alsoOther : c ≠ ',' := fun same => noComma rest (same ▸ rfl)
    simp [other, alsoOther]

/-- Fields that are listed are read, up to the closing brace. -/
theorem ListsFields.readFields? {inside : List Char} {pairs : List (String × String)}
    (lists : ListsFields inside pairs) (depth : Nat) (rest : List Char) :
    ∀ fuel, pairs.length < fuel →
      Json.readFields? fuel depth (inside ++ '\x7d' :: rest) = some (textFields pairs, rest) := by
  -- Each field takes one unit of fuel, and the last value one more.
  induction lists with
  | last named holds =>
    intro fuel enough
    obtain ⟨fuel, rfl⟩ : ∃ less, fuel = less + 2 := ⟨fuel - 2, by simp at enough; omega⟩
    rw [List.append_assoc, List.cons_append,
      readFields?_of_quotes named holds fuel depth (by decide), if_pos rfl]
    rfl
  | @more name content others key value pairs named holds _ ih =>
    intro fuel enough
    obtain ⟨fuel, rfl⟩ : ∃ less, fuel = less + 2 := ⟨fuel - 2, by simp at enough; omega⟩
    have later := ih (fuel + 1) (by simp at enough; omega)
    have text : name ++ ':' :: (content ++ ',' :: others) ++ '\x7d' :: rest =
        name ++ ':' :: (content ++ ',' :: (others ++ '\x7d' :: rest)) := by
      simp
    rw [text, readFields?_of_quotes named holds fuel depth (by decide), if_neg (by decide),
      if_pos rfl, later]
    rfl

/-- A text that lists fields is no shorter than there are fields. -/
theorem ListsFields.length_le {inside : List Char} {pairs : List (String × String)}
    (lists : ListsFields inside pairs) : pairs.length ≤ inside.length := by
  -- Each field brings at least its colon.
  induction lists with
  | last => simp; omega
  | more _ _ _ ih => simp; omega

/-- Listed fields start with a quote. -/
theorem ListsFields.skipGap {inside : List Char} {pairs : List (String × String)}
    (lists : ListsFields inside pairs) (rest : List Char) :
    ∃ tail, Json.skipGap (inside ++ rest) = '"' :: tail := by
  -- Whether others follow or not, the first name comes first.
  cases lists with
  | last named _ =>
    rw [List.append_assoc]
    obtain ⟨_, _, _, _, shape⟩ := named.skipGap_append (':' :: _ ++ rest)
    exact ⟨_, shape⟩
  | more named _ _ =>
    rw [List.append_assoc]
    obtain ⟨_, _, _, _, shape⟩ := named.skipGap_append (':' :: _ ++ rest)
    exact ⟨_, shape⟩

/-- A text has fields with strings for values exactly if it is one object of them. -/
theorem parseFields?_eq_textFields_iff {text : String} {pairs : List (String × String)} :
    parseFields? text = some (textFields pairs) ↔ IsTextObject text.toList pairs := by
  constructor
  · intro read
    -- Gaps are what is skipped in front and all that is left behind.
    obtain ⟨before, isBefore, split⟩ := exists_gap text.toList
    unfold parseFields? at read
    split at read
    · next afterBrace brace =>
      obtain ⟨⟨fields, rest⟩, found, whole⟩ := Option.bind_eq_some_iff.mp read
      obtain ⟨nothing, same⟩ := Option.ite_none_right_eq_some.mp whole
      obtain rfl : fields = textFields pairs := Option.some.inj same
      have isAfter : IsGap rest := skipGap_eq_nil_iff.mp (List.isEmpty_iff.mp nothing)
      -- Either the brace closes at once, or fields are listed before it does.
      split at found
      · next after close =>
        obtain ⟨none, rfl⟩ := Prod.mk.inj (Option.some.inj found)
        obtain ⟨inside, isInside, gap⟩ := exists_gap afterBrace
        refine ⟨before, inside, after, isBefore, isAfter, ?_, .inl ⟨isInside, ?_⟩⟩
        · rw [split, brace, gap, close]
        · exact List.map_eq_nil_iff.mp none.symm
      · rw [readFields?_skipGap] at found
        obtain ⟨inside, lists, rfl⟩ := listsFields_of_readFields? found
        exact ⟨before, inside, rest, isBefore, isAfter, split.trans (by rw [brace]), .inr lists⟩
    · contradiction
  · -- What stands around the braces are gaps, and so is what is between them if nothing is listed.
    rintro ⟨before, inside, after, isBefore, isAfter, shape, content⟩
    have brace : skipGap text.toList = '\x7b' :: (inside ++ '\x7d' :: after) := by
      rw [shape]
      exact skipGap_append isBefore (by decide) _
    have nothing : skipGap after = [] := skipGap_eq_nil_iff.mpr isAfter
    unfold parseFields?
    rcases content with ⟨isInside, rfl⟩ | lists
    · simp [brace, skipGap_append isInside (c := '\x7d') (by decide), nothing, textFields]
    · -- The fuel is enough, since each field takes at least one character.
      have enough : pairs.length < 2 * text.length + 2 := by
        have size := congrArg List.length shape
        have fields := lists.length_le
        simp only [String.length_toList, List.length_append, List.length_cons] at size
        omega
      have read := lists.readFields? (maxDepth - 1) after _ enough
      obtain ⟨tail, quote⟩ := lists.skipGap ('\x7d' :: after)
      rw [← readFields?_skipGap, quote] at read
      simp [brace, quote, read, nothing]

/-- A string between quotes and gaps is one in quotes. -/
theorem quotes_printText {before after : List Char} (isBefore : IsGap before)
    (isAfter : IsGap after) (value : String) : Quotes (before ++ printText value ++ after) value :=
  ⟨before, value.toList.flatMap escapeChar, after, isBefore, isAfter,
    spells_flatMap_escapeChar value.toList, by simp [printText]⟩

/-- Fields on lines of their own are listed, up to the closing brace. -/
theorem listsFields_indentFields (depth : Nat) {pairs : List (String × String)}
    (nonempty : pairs ≠ []) :
    ∃ inside, ListsFields inside pairs ∧
      indentFields depth (textFields pairs) = inside ++ ['\x7d'] := by
  have line := isGap_newLine (depth + 1)
  induction pairs with
  | nil => contradiction
  | cons pair more ih =>
    -- A name stands behind the start of its line, and right before the colon.
    obtain ⟨key, value⟩ := pair
    have named := quotes_printText line isGap_nil key
    cases more with
    | nil =>
      -- The last field stands before the line of the brace.
      exact ⟨_, .last named (quotes_printText isGap_space (isGap_newLine depth) value),
        by simp [textFields, indentFields, indent]⟩
    | cons second more =>
      -- Any other stands before a comma, and the fields after it follow.
      obtain ⟨inside, lists, shape⟩ := ih (by simp)
      have text : indentFields depth (textFields ((key, value) :: second :: more)) =
          newLine (depth + 1) ++ printText key ++ ':' :: ' ' :: printText value ++
            ',' :: indentFields depth (textFields (second :: more)) := by
        simp [textFields, indentFields, indent]
      refine ⟨_, .more named (quotes_printText isGap_space isGap_nil value) lists, ?_⟩
      rw [text, shape]
      simp

/-- An object of strings is written as one, with its fields in their order. -/
theorem isTextObject_indented (pairs : List (String × String)) :
    IsTextObject (Json.object (textFields pairs)).indented.toList pairs := by
  rw [indented, String.toList_ofList]
  -- Without fields the braces stand together, and else the fields are on lines between them.
  cases pairs with
  | nil =>
    exact ⟨[], [], [], isGap_nil, isGap_nil, by simp [textFields, indent],
      .inl ⟨isGap_nil, rfl⟩⟩
  | cons pair more =>
    obtain ⟨inside, lists, shape⟩ := listsFields_indentFields 0 (List.cons_ne_nil pair more)
    refine ⟨[], inside, [], isGap_nil, isGap_nil, ?_, .inr lists⟩
    simpa [textFields, indent] using shape

end StackPanel.Json

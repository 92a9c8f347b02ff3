import StackPanel.Proofs.Entries
import StackPanel.Proofs.Json.Gap
import StackPanel.Proofs.Json.Number
import StackPanel.Proofs.Json.Text

/-! Values are read back, from one line or from several: text, whole numbers, and containers of
these. -/

namespace StackPanel.Json

/-- Whether a text is read as a value before anything that ends a number. -/
def ReadsAs (depth : Nat) (text : List Char) (value : Json) : Prop :=
  ∀ fuel rest, 2 * text.length ≤ fuel → EndsNumber rest →
    readValue? fuel depth (text ++ rest) = some (value, rest)

/-- Whether a text is read as items up to the bracket that closes them. -/
def ReadsItems (depth : Nat) (text : List Char) (items : List Json) : Prop :=
  ∀ fuel rest, 2 * text.length ≤ fuel →
    readItems? fuel depth (text ++ rest) = some (items, rest)

/-- Whether a text is read as fields up to the brace that closes them. -/
def ReadsFields (depth : Nat) (text : List Char) (fields : List (String × Json)) : Prop :=
  ∀ fuel rest, 2 * text.length ≤ fuel →
    readFields? fuel depth (text ++ rest) = some (fields, rest)

/-- A comma ends a number. -/
theorem endsNumber_comma (rest : List Char) : EndsNumber (',' :: rest) := by
  simp [EndsNumber]

/-- A gap before something that ends a number ends it already. -/
theorem endsNumber_gap {gap rest : List Char} (between : IsGap gap) (ends : EndsNumber rest) :
    EndsNumber (gap ++ rest) := by
  cases gap with
  | nil => exact ends
  | cons c cs =>
    -- None of the four characters of gaps is part of a number.
    have gap : isGap c = true := between c List.mem_cons_self
    -- Let the gap be c followed by cs, the first of what follows is then c.
    intro first found
    obtain rfl : c = first := by simpa using found
    obtain ((rfl | rfl) | rfl) | rfl : ((c = ' ' ∨ c = '\n') ∨ c = '\t') ∨ c = '\r' := by
      simpa [isGap] using gap
    all_goals decide

/-- A gap in front of a text does not change what it is read as. -/
theorem ReadsAs.gap {depth : Nat} {text gap : List Char} {value : Json}
    (reads : ReadsAs depth text value) (between : IsGap gap) :
    ReadsAs depth (gap ++ text) value := by
  intro fuel rest enough ends
  rw [List.length_append] at enough
  -- The reader skips gaps itself, so the gap can go before the text is read.
  rw [List.append_assoc, ← readValue?_skipGap, skipGap_gap between, readValue?_skipGap]
  exact reads fuel rest (by omega) ends

/-- A text is read from its characters between quotes. -/
theorem readsAs_printText (depth : Nat) (value : String) :
    ReadsAs depth (printText value) (.text value) := by
  intro fuel rest enough ends
  have size : 2 ≤ (printText value).length := by
    simp [printText]
  -- Two characters of text leave some fuel to spend on the value.
  obtain ⟨fuel, rfl⟩ : ∃ more, fuel = more + 1 := ⟨fuel - 1, by omega⟩
  -- The opening quote tells what kind of value it is.
  rw [printText_append, readValue?, skipGap_cons (by decide)]
  simp [readText?_flatMap_escapeChar]

/-- Whether a character can be the first of a whole number. -/
def StartsNumber (c : Char) : Prop :=
  c = '-' ∨ c.isDigit = true

/-- A whole number starts with its sign or its first digit. -/
theorem ofInt_start (value : Int) :
    ∃ c cs, Decimal.ofInt value = c :: cs ∧ StartsNumber c := by
  cases value with
  | ofNat n =>
    -- A number without a sign starts with its first digit, and there always is one.
    obtain ⟨c, cs, shape⟩ := List.exists_cons_of_ne_nil
      (Nat.toDigits_ne_nil : Nat.toDigits 10 n ≠ [])
    refine ⟨c, cs, shape, .inr ?_⟩
    exact Text.isDigit_of_mem_toDigits (n := n) (by rw [shape]; exact List.mem_cons_self)
  | negSucc n => exact ⟨'-', _, rfl, .inl rfl⟩

namespace StartsNumber

variable {c : Char}

/-- The first character of a number is none that is neither a sign nor a digit. -/
theorem ne (start : StartsNumber c) (other : Char) (unsigned : other ≠ '-')
    (letter : other.isDigit = false) : c ≠ other := by
  rintro rfl
  rcases start with minus | digit
  · exact unsigned minus
  · simp [letter] at digit

/-- The first character of a number is no gap. -/
theorem solid (start : StartsNumber c) : isGap c = false := by
  -- Each of the four gaps is neither the sign nor a digit.
  have space := start.ne ' ' (by decide) (by decide)
  have line := start.ne '\n' (by decide) (by decide)
  have tab := start.ne '\t' (by decide) (by decide)
  have turn := start.ne '\r' (by decide) (by decide)
  simp [isGap, space, line, tab, turn]

/-- What starts like a number is read as one. -/
theorem readValue?_eq (start : StartsNumber c) (fuel depth : Nat) (rest : List Char) :
    readValue? (fuel + 1) depth (c :: rest) =
      (readNumberToken? (c :: rest)).bind fun read =>
        read.1.value?.map fun value => (value, read.2) := by
  -- Every other kind of value has a first character of its own.
  have n := start.ne 'n' (by decide) (by decide)
  have t := start.ne 't' (by decide) (by decide)
  have f := start.ne 'f' (by decide) (by decide)
  have quote := start.ne '"' (by decide) (by decide)
  have bracket := start.ne '[' (by decide) (by decide)
  have brace := start.ne '\x7b' (by decide) (by decide)
  rw [readValue?, skipGap_cons start.solid]
  cases read : readNumberToken? (c :: rest) <;> simp [n, t, f, quote, bracket, brace, read]

end StartsNumber

/-- A whole number of 64 bits is read from its digits. -/
theorem readsAs_ofInt (depth : Nat) {value : Int} (range : InWord value) :
    ReadsAs depth (Decimal.ofInt value) (.integer value) := by
  intro fuel rest enough ends
  -- The token takes in the whole number, and stands for it.
  have token := readNumberToken?_ofInt ends value
  obtain ⟨c, cs, shape, start⟩ := ofInt_start value
  simp only [shape, List.length_cons, List.cons_append] at enough token ⊢
  -- A number has a first character, so some fuel is left for it.
  obtain ⟨fuel, rfl⟩ : ∃ more, fuel = more + 1 := ⟨fuel - 1, by omega⟩
  rw [start.readValue?_eq, token]
  simp [value?_tokenOf range]

/-- One of the three words is read as its value. -/
theorem readsAs_word (depth : Nat) {word : List Char} {value : Json}
    (named : (word, value) ∈ [("null".toList, .null), ("true".toList, .bool true),
      ("false".toList, .bool false)]) : ReadsAs depth word value := by
  intro fuel rest enough ends
  obtain ⟨fuel, rfl⟩ : ∃ more, fuel = more + 1 := by
    -- None of the words is empty, and fuel is counted by their characters.
    refine ⟨fuel - 1, ?_⟩
    rcases word with _ | ⟨c, cs⟩
    · simp at named
    · simp only [List.length_cons] at enough
      omega
  -- Each word has a first letter of its own.
  simp only [List.mem_cons, Prod.mk.injEq, List.not_mem_nil, or_false] at named
  rcases named with ⟨rfl, rfl⟩ | ⟨rfl, rfl⟩ | ⟨rfl, rfl⟩
  · simp [readValue?, skipGap_cons (c := 'n') (by decide)]
  · simp [readValue?, skipGap_cons (c := 't') (by decide)]
  · simp [readValue?, skipGap_cons (c := 'f') (by decide)]

section Items

variable {depth : Nat} {text others gap : List Char} {item : Json} {items : List Json}

/-- A text before a bracket is read as the only item, whatever gap stands between them. -/
theorem ReadsItems.last (reads : ReadsAs depth text item) (between : IsGap gap) :
    ReadsItems depth (text ++ (gap ++ [']'])) [item] := by
  intro fuel rest enough
  simp only [List.length_append, List.length_singleton] at enough
  obtain ⟨fuel, rfl⟩ : ∃ more, fuel = more + 1 := ⟨fuel - 1, by omega⟩
  -- Neither the gap nor the bracket belongs to the item, so the item is read to its end.
  have ends : EndsNumber (gap ++ ']' :: rest) := endsNumber_gap between (by simp [EndsNumber])
  have read := reads fuel (gap ++ ']' :: rest) (by omega) ends
  have closed : skipGap (gap ++ ']' :: rest) = ']' :: rest :=
    skipGap_append between (by decide) rest
  have whole : text ++ (gap ++ [']']) ++ rest = text ++ (gap ++ ']' :: rest) := by simp
  rw [whole, readItems?, read]
  simp [closed]

/-- A text before a comma and other items is read as the first of them. -/
theorem ReadsItems.more (reads : ReadsAs depth text item) (later : ReadsItems depth others items) :
    ReadsItems depth (text ++ ',' :: others) (item :: items) := by
  intro fuel rest enough
  simp only [List.length_append, List.length_cons] at enough
  obtain ⟨fuel, rfl⟩ : ∃ more, fuel = more + 1 := ⟨fuel - 1, by omega⟩
  have read := reads fuel (',' :: (others ++ rest)) (by omega) (endsNumber_comma _)
  have whole : text ++ ',' :: others ++ rest = text ++ ',' :: (others ++ rest) := by simp
  rw [whole, readItems?, read]
  simp [skipGap_cons (c := ',') (by decide), later fuel rest (by omega)]

/-- No value starts with a closing bracket. -/
theorem readValue?_bracket (fuel depth : Nat) {cs rest : List Char}
    (closed : skipGap cs = ']' :: rest) : readValue? fuel depth cs = none := by
  cases fuel with
  | zero => simp [readValue?]
  | succ fuel =>
    -- The only kind of value without a first character of its own is a number, and it has no
    -- digits.
    rw [readValue?, closed]
    simp [readNumberToken?, readWhole?, takeDigits]

/-- An array without items is read from its brackets. -/
theorem readsAs_emptyArray (depth : Nat) : ReadsAs (depth + 1) ['[', ']'] (.array []) := by
  intro fuel rest enough ends
  -- The two brackets alone are two characters long.
  obtain ⟨fuel, rfl⟩ : ∃ more, fuel = more + 1 := ⟨fuel - 1, by simp at enough; omega⟩
  simp [readValue?, skipGap_cons (c := '[') (by decide), skipGap_cons (c := ']') (by decide)]

/-- An array is read from an opening bracket and its items. -/
theorem ReadsItems.array (reads : ReadsItems depth text items) :
    ReadsAs (depth + 1) ('[' :: text) (.array items) := by
  intro fuel rest enough ends
  simp only [List.length_cons] at enough
  obtain ⟨fuel, rfl⟩ : ∃ more, fuel = more + 1 := ⟨fuel - 1, by omega⟩
  have read := reads fuel rest (by omega)
  -- Items cannot start with the closing bracket, so the array is not taken for an empty one.
  have opened : ∀ after, skipGap (text ++ rest) ≠ ']' :: after := by
    intro after closed
    cases fuel with
    -- Else the items could not have been read at all.
    | zero => simp [readItems?] at read
    | succ fuel => simp [readItems?, readValue?_bracket fuel depth closed] at read
  rw [← readItems?_skipGap] at read
  rw [List.cons_append, readValue?, skipGap_cons (by decide)]
  simp [read]

end Items

section Fields

variable {depth : Nat} {text others before gap : List Char} {value : Json}
  {fields : List (String × Json)}

/-- A name and a text before a brace are read as the only field, whatever gaps stand in front of
the name and of the brace. -/
theorem ReadsFields.last (key : String) (named : IsGap before) (reads : ReadsAs depth text value)
    (between : IsGap gap) :
    ReadsFields depth (before ++ (printText key ++ ':' :: (text ++ (gap ++ ['\x7d']))))
      [(key, value)] := by
  intro fuel rest enough
  simp only [List.length_append, List.length_cons, List.length_nil] at enough
  obtain ⟨fuel, rfl⟩ : ∃ more, fuel = more + 1 := ⟨fuel - 1, by omega⟩
  -- As with items, what follows the value belongs to no number.
  have ends : EndsNumber (gap ++ '\x7d' :: rest) :=
    endsNumber_gap between (by simp [EndsNumber])
  have read := reads fuel (gap ++ '\x7d' :: rest) (by omega) ends
  have closed : skipGap (gap ++ '\x7d' :: rest) = '\x7d' :: rest :=
    skipGap_append between (by decide) rest
  have whole : before ++ (printText key ++ ':' :: (text ++ (gap ++ ['\x7d']))) ++ rest =
      before ++ '"' :: (key.toList.flatMap escapeChar ++
        '"' :: ':' :: (text ++ (gap ++ '\x7d' :: rest))) := by
    -- The name goes between quotes, so its characters can be read by the rule for text.
    simp [printText]
  rw [whole, readFields?, skipGap_append named (by decide)]
  simp only [readText?_flatMap_escapeChar, skipGap_cons (c := ':') (by decide), read, closed,
    String.ofList_toList]

/-- A name and a text before a comma and other fields are read as the first of them. -/
theorem ReadsFields.more (key : String) (named : IsGap before) (reads : ReadsAs depth text value)
    (later : ReadsFields depth others fields) :
    ReadsFields depth (before ++ (printText key ++ ':' :: (text ++ ',' :: others)))
      ((key, value) :: fields) := by
  intro fuel rest enough
  simp only [List.length_append, List.length_cons] at enough
  obtain ⟨fuel, rfl⟩ : ∃ more, fuel = more + 1 := ⟨fuel - 1, by omega⟩
  have read := reads fuel (',' :: (others ++ rest)) (by omega) (endsNumber_comma _)
  have whole : before ++ (printText key ++ ':' :: (text ++ ',' :: others)) ++ rest =
      before ++ '"' :: (key.toList.flatMap escapeChar ++
        '"' :: ':' :: (text ++ ',' :: (others ++ rest))) := by
    simp [printText]
  rw [whole, readFields?, skipGap_append named (by decide)]
  simp only [readText?_flatMap_escapeChar, skipGap_cons (c := ':') (by decide), read,
    skipGap_cons (c := ',') (by decide), later fuel rest (by omega), Option.map_some,
    String.ofList_toList]

/-- An object without fields is read from its braces. -/
theorem readsAs_emptyObject (depth : Nat) :
    ReadsAs (depth + 1) ['\x7b', '\x7d'] (.object []) := by
  intro fuel rest enough ends
  -- The two braces alone are two characters long.
  obtain ⟨fuel, rfl⟩ : ∃ more, fuel = more + 1 := ⟨fuel - 1, by simp at enough; omega⟩
  simp [readValue?, skipGap_cons (c := '\x7b') (by decide), skipGap_cons (c := '\x7d') (by decide)]

/-- An object is read from an opening brace and its fields, if these are in order. -/
theorem ReadsFields.object (reads : ReadsFields depth text fields)
    (sorted : fields.Pairwise fun first second => first.1 < second.1) :
    ReadsAs (depth + 1) ('\x7b' :: text) (.object fields) := by
  intro fuel rest enough ends
  simp only [List.length_cons] at enough
  obtain ⟨fuel, rfl⟩ : ∃ more, fuel = more + 1 := ⟨fuel - 1, by omega⟩
  have read := reads fuel rest (by omega)
  -- Fields start with a quote, so the object is not taken for an empty one.
  have opened : ∀ after, skipGap (text ++ rest) ≠ '\x7d' :: after := by
    intro after closed
    cases fuel with
    | zero => simp [readFields?] at read
    | succ fuel => simp [readFields?, closed] at read
  rw [← readFields?_skipGap] at read
  rw [List.cons_append, readValue?, skipGap_cons (by decide)]
  simp [read, ofFields, Entries.ofPairs_of_sorted sorted]

end Fields

/-- Whether a value can be read back while this many containers may open: it holds no fractions,
its whole numbers have 64 bits, and its objects are sorted. -/
inductive Readable : Nat → Json → Prop where
  | null {depth : Nat} : Readable depth .null
  | bool {depth : Nat} (value : Bool) : Readable depth (.bool value)
  | integer {depth : Nat} {value : Int} (range : InWord value) : Readable depth (.integer value)
  | text {depth : Nat} (value : String) : Readable depth (.text value)
  | array {depth : Nat} {items : List Json} (each : ∀ item ∈ items, Readable depth item) :
    Readable (depth + 1) (.array items)
  | object {depth : Nat} {fields : List (String × Json)}
    (sorted : fields.Pairwise fun first second => first.1 < second.1)
    (each : ∀ field ∈ fields, Readable depth field.2) :
    Readable (depth + 1) (.object fields)

/-- Items on one line are read if each of them is. -/
theorem readsItems_printItems {depth : Nat} {items : List Json} (nonempty : items ≠ [])
    (each : ∀ item ∈ items, ReadsAs depth (print item) item) :
    ReadsItems depth (printItems items) items := by
  -- All but the last item are followed by a comma, so the last one is a case of its own.
  induction items with
  | nil => contradiction
  | cons item more ih =>
    have first : ReadsAs depth (print item) item := each item List.mem_cons_self
    cases more with
    | nil => exact .last first isGap_nil
    | cons second more =>
      have later := ih (by simp) fun item member => each item (List.mem_cons_of_mem _ member)
      exact .more first later

/-- Items on lines of their own are read if each of them is. -/
theorem readsItems_indentItems {depth : Nat} (level : Nat) {items : List Json}
    (nonempty : items ≠ []) (each : ∀ item ∈ items, ReadsAs depth (indent (level + 1) item) item) :
    ReadsItems depth (indentItems level items) items := by
  have line := isGap_newLine (level + 1)
  induction items with
  | nil => contradiction
  | cons item more ih =>
    -- The start of its line is a gap in front of an item.
    have first := (each item List.mem_cons_self).gap line
    cases more with
    | nil =>
      -- The bracket stands on a line of its own, one level up.
      have read := ReadsItems.last first (isGap_newLine level)
      simpa [indentItems] using read
    | cons second more =>
      have later := ih (by simp) fun item member => each item (List.mem_cons_of_mem _ member)
      exact .more first later

/-- Fields on one line are read if the value of each of them is. -/
theorem readsFields_printFields {depth : Nat} {fields : List (String × Json)}
    (nonempty : fields ≠ []) (each : ∀ field ∈ fields, ReadsAs depth (print field.2) field.2) :
    ReadsFields depth (printFields fields) fields := by
  -- Again the last one is a case of its own.
  induction fields with
  | nil => contradiction
  | cons field more ih =>
    obtain ⟨key, value⟩ := field
    have first : ReadsAs depth (print value) value := each (key, value) List.mem_cons_self
    cases more with
    | nil =>
      -- On one line there is no gap before the name nor before the brace.
      have read := ReadsFields.last key isGap_nil first isGap_nil
      simpa [printFields] using read
    | cons second more =>
      have later := ih (by simp) fun field member => each field (List.mem_cons_of_mem _ member)
      have read := ReadsFields.more key isGap_nil first later
      simpa [printFields] using read

/-- Fields on lines of their own are read if the value of each of them is. -/
theorem readsFields_indentFields {depth : Nat} (level : Nat) {fields : List (String × Json)}
    (nonempty : fields ≠ [])
    (each : ∀ field ∈ fields, ReadsAs depth (indent (level + 1) field.2) field.2) :
    ReadsFields depth (indentFields level fields) fields := by
  have line := isGap_newLine (level + 1)
  induction fields with
  | nil => contradiction
  | cons field more ih =>
    obtain ⟨key, value⟩ := field
    -- A space stands between the colon and the value.
    have first := (each (key, value) List.mem_cons_self).gap isGap_space
    cases more with
    | nil =>
      have read := ReadsFields.last key line first (isGap_newLine level)
      simpa [indentFields] using read
    | cons second more =>
      have later := ih (by simp) fun field member => each field (List.mem_cons_of_mem _ member)
      have read := ReadsFields.more key line first later
      simpa [indentFields] using read

/-- A value that can be read back is, from one line. -/
theorem Readable.readsAs_print {depth : Nat} {value : Json} (readable : Readable depth value) :
    ReadsAs depth (print value) value := by
  -- A container is read back because its parts are, and they may open one container less.
  induction readable with
  | null => exact readsAs_word _ (by simp [print])
  | bool value => cases value <;> exact readsAs_word _ (by simp [print])
  | integer range => exact readsAs_ofInt _ range
  | text value => exact readsAs_printText _ value
  | @array _ items each ih =>
    cases items with
    -- An empty container prints as its two brackets, to which the rule for items does not apply.
    | nil => exact readsAs_emptyArray _
    | cons item more => exact (readsItems_printItems (by simp) ih).array
  | @object _ fields sorted each ih =>
    cases fields with
    | nil => exact readsAs_emptyObject _
    | cons field more => exact (readsFields_printFields (by simp) ih).object sorted

/-- A value that can be read back is, from several lines at any level. -/
theorem Readable.readsAs_indent {depth : Nat} {value : Json} (readable : Readable depth value) :
    ∀ level, ReadsAs depth (indent level value) value := by
  -- What stands on lines of its own does so one level deeper than its container.
  induction readable with
  | null => exact fun level => readsAs_word _ (by simp [indent])
  | bool value => cases value <;> exact fun level => readsAs_word _ (by simp [indent])
  | integer range => exact fun level => readsAs_ofInt _ range
  | text value => exact fun level => readsAs_printText _ value
  | @array _ items each ih =>
    intro level
    cases items with
    | nil => exact readsAs_emptyArray _
    | cons item more =>
      have inner := readsItems_indentItems level (List.cons_ne_nil item more)
        fun item member => ih item member (level + 1)
      exact inner.array
  | @object _ fields sorted each ih =>
    intro level
    cases fields with
    | nil => exact readsAs_emptyObject _
    | cons field more =>
      have inner := readsFields_indentFields level (List.cons_ne_nil field more)
        fun field member => ih field member (level + 1)
      exact inner.object sorted

/-- A text that is read as a value and nothing else is the text of that value. -/
theorem ReadsAs.parse?_eq {text : List Char} {value : Json} (reads : ReadsAs maxDepth text value) :
    parse? (String.ofList text) = some value := by
  -- Nothing follows the value, and the reader has fuel for all of its text.
  have ends : EndsNumber [] := by simp [EndsNumber]
  have read := reads (2 * text.length + 2) [] (by omega) ends
  rw [List.append_nil] at read
  simp [parse?, read, skipGap]

/-- A value on one line is the text of that value and nothing else. -/
theorem Readable.parse?_compact {value : Json} (readable : Readable maxDepth value) :
    parse? value.compact = some value :=
  readable.readsAs_print.parse?_eq

/-- A value over several lines is the text of that value and nothing else. -/
theorem Readable.parse?_indented {value : Json} (readable : Readable maxDepth value) :
    parse? value.indented = some value :=
  (readable.readsAs_indent 0).parse?_eq

end StackPanel.Json

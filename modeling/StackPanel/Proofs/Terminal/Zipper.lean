import Mathlib.Data.List.DropRight
import StackPanel.Proofs.Terminal.Edit
import StackPanel.Proofs.Text.Offset

/-! An edit works on whole characters: its bytes and its cursor follow a text that is split where
the cursor stands, through every sequence of keys. -/

namespace StackPanel

/-- A text as the characters before the cursor and those after it. -/
structure Zipper where
  /-- The characters before the cursor. -/
  left : List Char
  /-- The characters after the cursor. -/
  right : List Char
  deriving DecidableEq

namespace Zipper

/-- White space at which words end. -/
def isSpace (c : Char) : Bool :=
  c = ' ' || c = '\t' || c = '\n' || c = '\x0c' || c = '\r'

/-- A text with the cursor after its end. -/
def ofText (text : String) : Zipper :=
  { left := text.toList, right := [] }

/-- The whole text. -/
def text (zipper : Zipper) : String :=
  String.ofList (zipper.left ++ zipper.right)

/-- Puts a character before the cursor. -/
def insert (zipper : Zipper) (c : Char) : Zipper :=
  { zipper with left := zipper.left ++ [c] }

/-- Drops the spaces before the cursor and then the word before them. -/
def removeWord (zipper : Zipper) : Zipper :=
  { zipper with left := (zipper.left.rdropWhile isSpace).rdropWhile (!isSpace ·) }

/-- Moves the cursor over the character before it, if there is one. -/
def moveLeft (zipper : Zipper) : Zipper :=
  match zipper.left.getLast? with
  | none => zipper
  | some c => { left := zipper.left.dropLast, right := c :: zipper.right }

/-- Moves the cursor over the character after it, if there is one. -/
def moveRight (zipper : Zipper) : Zipper :=
  match zipper.right with
  | [] => zipper
  | c :: rest => { left := zipper.left ++ [c], right := rest }

/-- What a key does to a text, on a field of one line or of several. -/
def press (multiline : Bool) (zipper : Zipper) (press : KeyPress) : Zipper :=
  match press.key with
  | .char c =>
    if !press.control then zipper.insert c
    else if c = 'w' then zipper.removeWord
    else if c = 'u' then { left := [], right := [] }
    else zipper
  | .enter => if multiline then zipper.insert '\n' else zipper
  | .backspace => { zipper with left := zipper.left.dropLast }
  | .delete => { zipper with right := zipper.right.tail }
  | .left => zipper.moveLeft
  | .right => zipper.moveRight
  | .lineStart => { left := [], right := zipper.left ++ zipper.right }
  | .lineEnd => { left := zipper.left ++ zipper.right, right := [] }
  | _ => zipper

end Zipper

/-- The code points of the white space at which words end. -/
theorem Zipper.isSpace_iff (c : Char) :
    isSpace c = true ↔
      c.toNat = 9 ∨ c.toNat = 10 ∨ c.toNat = 12 ∨ c.toNat = 13 ∨ c.toNat = 32 := by
  -- Both sides are compared by code points.
  simp only [isSpace, ← Char.toNat_inj, Bool.or_eq_true, decide_eq_true_eq]
  simp only [Char.reduceToNat]
  omega

namespace EditBuffer

/-- The bytes of the white space at which words end. -/
theorem isSpaceByte_iff (b : UInt8) :
    isSpaceByte b = true ↔
      b.toNat = 9 ∨ b.toNat = 10 ∨ b.toNat = 12 ∨ b.toNat = 13 ∨ b.toNat = 32 := by
  -- The same five numbers, of bytes this time.
  simp only [isSpaceByte, ← UInt8.toNat_inj, Bool.or_eq_true, decide_eq_true_eq]
  simp only [UInt8.reduceToNat]
  omega

/-- The one byte of an ASCII character is its code point, and all bytes of any other character lie
above ASCII. -/
theorem toNat_of_mem_utf8EncodeChar {c : Char} {b : UInt8}
    (member : b ∈ String.utf8EncodeChar c) :
    b.toNat = c.toNat ∨ 128 ≤ b.toNat ∧ 128 ≤ c.toNat := by
  have code : c.val.toNat = c.toNat := rfl
  simp only [String.utf8EncodeChar, code] at member
  split at member
  · -- The short form is one byte, in which the code point has room.
    left
    rw [List.mem_singleton.mp member, UInt8.toNat_ofNat']
    omega
  · -- Each byte of a longer form has its highest bit set.
    right
    refine ⟨?_, by omega⟩
    split at member
    · simp only [List.mem_cons, List.not_mem_nil, or_false] at member
      rcases member with rfl | rfl <;> simp only [UInt8.toNat_ofNat'] <;> omega
    · split at member
      · simp only [List.mem_cons, List.not_mem_nil, or_false] at member
        rcases member with rfl | rfl | rfl <;> simp only [UInt8.toNat_ofNat'] <;> omega
      · simp only [List.mem_cons, List.not_mem_nil, or_false] at member
        rcases member with rfl | rfl | rfl | rfl <;> simp only [UInt8.toNat_ofNat'] <;> omega

/-- The bytes of a character are spaces exactly if the character is one. -/
theorem isSpaceByte_of_mem {c : Char} {b : UInt8} (member : b ∈ String.utf8EncodeChar c) :
    isSpaceByte b = Zipper.isSpace c := by
  -- All spaces are ASCII, where a character and its byte are the same number.
  rw [Bool.eq_iff_iff, isSpaceByte_iff, Zipper.isSpace_iff]
  rcases toNat_of_mem_utf8EncodeChar member with same | ⟨high, above⟩
  · rw [same]
  · omega

/-- Dropping bytes from the end of a text drops characters, if all bytes of a character are dropped
or none is. -/
theorem dropWhile_reverse_bytes {byteDrops : UInt8 → Bool} {drops : Char → Bool}
    (agree : ∀ c, ∀ b ∈ String.utf8EncodeChar c, byteDrops b = drops c) (cs : List Char) :
    (Text.bytes cs).reverse.dropWhile byteDrops =
      (Text.bytes (cs.rdropWhile drops)).reverse := by
  -- The bytes are dropped from the last character on, so that one is taken off first.
  induction cs using List.reverseRecOn with
  | nil => rfl
  | append_singleton init c ih =>
    -- Turned around, the bytes of the last character come first.
    have split : (Text.bytes (init ++ [c])).reverse =
        (String.utf8EncodeChar c).reverse ++ (Text.bytes init).reverse := by
      simp [Text.bytes]
    rw [List.rdropWhile_concat]
    by_cases dropped : drops c = true
    · -- With all its bytes gone the characters before it are next.
      have all : ∀ b ∈ (String.utf8EncodeChar c).reverse, byteDrops b = true := by
        intro b member
        rw [agree c b (List.mem_reverse.mp member), dropped]
      rw [split, List.dropWhile_append_of_pos all, if_pos dropped, ih]
    · -- Its last byte already stops the dropping.
      rw [if_neg dropped]
      have kept : ∀ b ∈ (String.utf8EncodeChar c).reverse, byteDrops b = false := by
        intro b member
        rw [agree c b (List.mem_reverse.mp member), Bool.eq_false_iff.mpr dropped]
      -- A character has at least one byte.
      have filled : (String.utf8EncodeChar c).reverse ≠ [] := by
        intro nothing
        have size := String.length_utf8EncodeChar c
        rw [List.reverse_eq_nil_iff.mp nothing] at size
        have positive := c.utf8Size_pos
        simp only [List.length_nil] at size
        omega
      obtain ⟨b, more, bytes⟩ := List.exists_cons_of_ne_nil filled
      have stops : byteDrops b = false := kept b (by rw [bytes]; exact List.mem_cons_self)
      rw [split, bytes, List.cons_append, List.dropWhile_cons_of_neg (by simp [stops])]

/-- The word before the cursor starts where dropping it by characters ends. -/
theorem wordStart_eq (left : List Char) :
    wordStart left =
      Text.byteLength ((left.rdropWhile Zipper.isSpace).rdropWhile (!Zipper.isSpace ·)) := by
  -- The two kinds of white space agree, and so do their opposites.
  have spaces : ∀ c, ∀ b ∈ String.utf8EncodeChar c, isSpaceByte b = Zipper.isSpace c :=
    fun c b member => isSpaceByte_of_mem member
  have others : ∀ c, ∀ b ∈ String.utf8EncodeChar c, (!isSpaceByte b) = !Zipper.isSpace c :=
    fun c b member => congrArg not (isSpaceByte_of_mem member)
  rw [wordStart, dropWhile_reverse_bytes spaces, dropWhile_reverse_bytes others,
    List.length_reverse, Text.length_bytes]

variable (buffer : EditBuffer) (left right : List Char)

/-- A character is inserted between both parts. -/
theorem insert?_between (c : Char) :
    (buffer.between left right).insert? c = some (buffer.between (left ++ [c]) right) := by
  -- Cut at the cursor, the text falls into the two parts.
  simp [insert?, between, Text.cutAt?_append, Text.byteLength]

/-- Removing from a place before the cursor keeps what stands before that place. -/
theorem removeFrom?_between (kept removed : List Char) :
    (buffer.between (kept ++ removed) right).removeFrom? (Text.byteLength kept) =
      some (buffer.between kept right) := by
  -- The text is cut at the cursor first, and its beginning then at that place.
  have atCursor := Text.cutAt?_append (kept ++ removed) right
  have atStart := Text.cutAt?_append kept removed
  simp only [removeFrom?, between, String.toList_ofList, atCursor, atStart,
    Option.bind_eq_bind, Option.bind_some, Option.pure_def]

/-- The character before the cursor is removed, if there is one. -/
theorem backspace?_between :
    (buffer.between left right).backspace? = some (buffer.between left.dropLast right) := by
  rcases List.eq_nil_or_concat left with rfl | ⟨init, c, rfl⟩
  · -- At the start there is nothing before the cursor, and the buffer stays.
    simp [backspace?, between, Text.byteLength]
  · -- The cursor stands after a character, and so not at the start.
    have positive : 0 < c.utf8Size := c.utf8Size_pos
    have notStart : (buffer.between (init ++ [c]) right).cursor ≠ 0 := by
      simp only [between, Text.byteLength_append, Text.byteLength]
      omega
    have boundary : Text.previousBoundary? (buffer.between (init ++ [c]) right).text
        (buffer.between (init ++ [c]) right).cursor = some (Text.byteLength init) :=
      (Text.previousBoundary?_append (init ++ [c]) right).trans (by rw [List.dropLast_concat])
    rw [List.concat_eq_append, List.dropLast_concat, backspace?, if_neg notStart, boundary]
    exact buffer.removeFrom?_between right init [c]

/-- The character after the cursor is removed, if there is one. -/
theorem delete?_between :
    (buffer.between left right).delete? = some (buffer.between left right.tail) := by
  unfold delete?
  cases right with
  | nil =>
    -- At the end of the text there is nothing to remove.
    have atEnd : (buffer.between left []).text.utf8ByteSize ≤ (buffer.between left []).cursor := by
      simp [between, Text.utf8ByteSize_ofList]
    rw [if_pos atEnd]
    rfl
  | cons c rest =>
    -- Before a character the cursor is not yet at the end.
    have positive : 0 < c.utf8Size := c.utf8Size_pos
    have before : ¬(buffer.between left (c :: rest)).text.utf8ByteSize ≤
        (buffer.between left (c :: rest)).cursor := by
      simp only [between, Text.utf8ByteSize_ofList, Text.byteLength_append, Text.byteLength]
      omega
    rw [if_neg before]
    simp [between, Text.cutAt?_append]

/-- The word before the cursor is removed with the spaces after it. -/
theorem removeWord?_between :
    (buffer.between left right).removeWord? =
      some (buffer.between ((left.rdropWhile Zipper.isSpace).rdropWhile (!Zipper.isSpace ·))
        right) := by
  let kept := (left.rdropWhile Zipper.isSpace).rdropWhile (!Zipper.isSpace ·)
  -- What is kept is a beginning of what stood before the cursor.
  have beginning : kept <+: left :=
    (List.rdropWhile_prefix _ _).trans (List.rdropWhile_prefix _ _)
  obtain ⟨removed, split⟩ := beginning
  have cut := Text.cutAt?_append left right
  have taken := buffer.removeFrom?_between right kept removed
  -- The cursor is cut at first, and then the beginning at the start of the word.
  rw [split] at taken
  simp only [removeWord?, between, String.toList_ofList, cut, wordStart_eq] at taken ⊢
  exact taken

/-- A buffer with the text of a zipper and the cursor where the zipper is split. -/
def withText (zipper : Zipper) : EditBuffer :=
  buffer.between zipper.left zipper.right

/-- The boundary before the cursor is where moving left leads. -/
theorem previousBoundary?_withText (zipper : Zipper) :
    (Text.previousBoundary? (buffer.withText zipper).text (buffer.withText zipper).cursor).map
        (fun cursor => { buffer.withText zipper with cursor }) =
      some (buffer.withText zipper.moveLeft) := by
  obtain ⟨left, right⟩ := zipper
  have boundary : Text.previousBoundary? (buffer.between left right).text
      (buffer.between left right).cursor = some (Text.byteLength left.dropLast) :=
    Text.previousBoundary?_append left right
  simp only [withText, boundary, Option.map_some, Option.some.injEq]
  -- The character that was passed is now the first after the cursor.
  rcases List.eq_nil_or_concat left with rfl | ⟨init, c, rfl⟩
  · rfl
  · simp [between, Zipper.moveLeft]

/-- The boundary after the cursor is where moving right leads. -/
theorem nextBoundary?_withText (zipper : Zipper) :
    (Text.nextBoundary? (buffer.withText zipper).text (buffer.withText zipper).cursor).map
        (fun cursor => { buffer.withText zipper with cursor }) =
      some (buffer.withText zipper.moveRight) := by
  obtain ⟨left, right⟩ := zipper
  have boundary : Text.nextBoundary? (buffer.between left right).text
      (buffer.between left right).cursor = some (Text.byteLength (left ++ right.take 1)) :=
    Text.nextBoundary?_append left right
  -- Only the cursor differs, so the place of it is left to compare.
  simp only [withText, boundary, Option.map_some, Option.some.injEq]
  -- The character that was passed is now the last before the cursor.
  cases right with
  | nil => simp [between, Zipper.moveRight]
  | cons c rest => simp [between, Zipper.moveRight]

/-- A key does to a buffer what it does to its text, split at the cursor. -/
theorem press?_withText (zipper : Zipper) (press : KeyPress) :
    (buffer.withText zipper).press? press =
      some (buffer.withText (zipper.press buffer.field.isMultiline press),
        press.finishes buffer.field) := by
  have sameField : (buffer.withText zipper).field = buffer.field := rfl
  -- Each kind of key has an operation of its own on both sides.
  cases typed : press.key
  case char c =>
    by_cases held : press.control = true
    · by_cases word : c = 'w'
      · have removed : (buffer.withText zipper).removeWord? =
            some (buffer.withText zipper.removeWord) := buffer.removeWord?_between _ _
        simp [press?, Zipper.press, KeyPress.finishes, typed, held, word, removed]
      · -- The other letter held with the control key clears the whole text.
        by_cases all : c = 'u'
        · simp [press?, Zipper.press, KeyPress.finishes, typed, held, all, clear, withText,
            between, Text.byteLength]
        · simp [press?, Zipper.press, KeyPress.finishes, typed, held, word, all]
    · have inserted : (buffer.withText zipper).insert? c =
          some (buffer.withText (zipper.insert c)) := buffer.insert?_between _ _ c
      simp [press?, Zipper.press, KeyPress.finishes, typed, held, inserted]
  case enter =>
    by_cases multiline : buffer.field.isMultiline = true
    · -- On several lines it is a character like any other.
      have inserted : (buffer.withText zipper).insert? '\n' =
          some (buffer.withText (zipper.insert '\n')) := buffer.insert?_between _ _ '\n'
      simp [press?, Zipper.press, KeyPress.finishes, typed, sameField, multiline, inserted]
    · -- On a single line it finishes the edit and leaves the text.
      simp [press?, Zipper.press, KeyPress.finishes, typed, sameField, multiline]
  case backspace =>
    have removed : (buffer.withText zipper).backspace? =
        some (buffer.withText { zipper with left := zipper.left.dropLast }) :=
      buffer.backspace?_between _ _
    simp [press?, Zipper.press, KeyPress.finishes, typed, removed]
  case delete =>
    have removed : (buffer.withText zipper).delete? =
        some (buffer.withText { zipper with right := zipper.right.tail }) :=
      buffer.delete?_between _ _
    simp [press?, Zipper.press, KeyPress.finishes, typed, removed]
  case left =>
    have moved := buffer.previousBoundary?_withText zipper
    -- The boundary to which the cursor moves was found above.
    obtain ⟨cursor, found, same⟩ := Option.map_eq_some_iff.mp moved
    simp only [press?, Zipper.press, KeyPress.finishes, typed, found, Option.map_some, same]
  case right =>
    have moved := buffer.nextBoundary?_withText zipper
    obtain ⟨cursor, found, same⟩ := Option.map_eq_some_iff.mp moved
    simp only [press?, Zipper.press, KeyPress.finishes, typed, found, Option.map_some, same]
  case lineStart =>
    simp [press?, Zipper.press, KeyPress.finishes, typed, withText, between, Text.byteLength]
  case lineEnd =>
    -- The end of the text is where all its characters stand before the cursor.
    have size : (String.ofList (zipper.left ++ zipper.right)).utf8ByteSize =
        Text.byteLength (zipper.left ++ zipper.right) := Text.utf8ByteSize_ofList _
    simp only [press?, Zipper.press, KeyPress.finishes, typed, withText, between, size,
      List.append_nil]
  -- No other key touches the buffer.
  all_goals simp only [press?, Zipper.press, KeyPress.finishes, typed]

/-- Whether a buffer holds the text of a zipper, with the cursor after the bytes of its first
part. -/
structure Holds (buffer : EditBuffer) (zipper : Zipper) : Prop where
  text : buffer.text = zipper.text
  cursor : buffer.cursor = (String.ofList zipper.left).utf8ByteSize

variable {buffer}

/-- A buffer holds a text exactly if it is the buffer with that text. -/
theorem holds_iff {zipper : Zipper} : buffer.Holds zipper ↔ buffer.withText zipper = buffer := by
  -- The cursor is counted in bytes on both sides.
  have size : (String.ofList zipper.left).utf8ByteSize = Text.byteLength zipper.left :=
    Text.utf8ByteSize_ofList zipper.left
  obtain ⟨field, text, cursor⟩ := buffer
  simp only [withText, between, EditBuffer.mk.injEq, true_and]
  constructor
  · rintro ⟨rfl, rfl⟩
    exact ⟨rfl, size.symm⟩
  · rintro ⟨rfl, rfl⟩
    exact ⟨rfl, size.symm⟩

/-- The cursor of a buffer that holds a text stands between two of its characters. -/
theorem Holds.isBoundary {zipper : Zipper} (holds : buffer.Holds zipper) :
    Text.IsBoundary buffer.text buffer.cursor := by
  rw [Text.isBoundary_iff]
  -- The parts of the zipper are the characters on either side.
  refine ⟨zipper.left, zipper.right, ?_, ?_⟩
  · rw [holds.text, Zipper.text, String.toList_ofList]
  · rw [holds.cursor, Text.utf8ByteSize_ofList]

/-- A buffer whose cursor stands between two characters is split there into what it holds. -/
theorem holds_of_isBoundary (boundary : Text.IsBoundary buffer.text buffer.cursor) :
    ∃ zipper, buffer.Holds zipper := by
  obtain ⟨left, right, split, length⟩ := Text.isBoundary_iff.mp boundary
  -- The boundary gives the two parts.
  refine ⟨{ left, right }, ?_, ?_⟩
  · rw [Zipper.text, ← split, String.ofList_toList]
  · rw [length, Text.utf8ByteSize_ofList]

/-- A key keeps a buffer at the text that the key makes of the one before. -/
theorem Holds.press {zipper : Zipper} (holds : buffer.Holds zipper) (press : KeyPress) :
    ∃ after, buffer.press? press = some (after, press.finishes buffer.field) ∧
      after.field = buffer.field ∧
      after.Holds (zipper.press buffer.field.isMultiline press) := by
  -- The buffer is the one with that text, for which it is known what the key does.
  have pressed := buffer.press?_withText zipper press
  rw [holds_iff.mp holds] at pressed
  exact ⟨_, pressed, rfl, holds_iff.mpr rfl⟩

/-- The buffer after some keys, whether or not one of them finishes the edit. -/
def pressAll? (buffer : EditBuffer) : List KeyPress → Option EditBuffer
  | [] => some buffer
  | press :: rest => (buffer.press? press).bind fun result => result.1.pressAll? rest

/-- Keys keep a buffer at the text that they make, one after another, of the one before. -/
theorem Holds.pressAll {zipper : Zipper} (holds : buffer.Holds zipper) (presses : List KeyPress) :
    ∃ after, buffer.pressAll? presses = some after ∧ after.field = buffer.field ∧
      after.Holds (presses.foldl (Zipper.press buffer.field.isMultiline) zipper) := by
  -- Every key leads to a buffer that holds a text again, of the same field.
  induction presses generalizing buffer zipper with
  | nil => exact ⟨buffer, rfl, rfl, holds⟩
  | cons press rest ih =>
    obtain ⟨next, pressed, sameField, held⟩ := holds.press press
    obtain ⟨after, run, field, last⟩ := ih held
    refine ⟨after, ?_, field.trans sameField, ?_⟩
    · simp only [pressAll?, pressed, Option.bind_some, run]
    · -- The next buffer has the field that the first had.
      rw [sameField] at last
      exact last

/-- An edit starts with the whole text of its field before the cursor. -/
theorem holds_ofField (field : Field) (text : String) :
    (ofField field text).Holds (.ofText text) := by
  constructor
  · -- Nothing stands behind the cursor.
    simp [ofField, Zipper.text, Zipper.ofText]
  · simp [ofField, Zipper.ofText]

end EditBuffer

end StackPanel

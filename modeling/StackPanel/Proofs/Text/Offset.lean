import StackPanel.Text.Offset

/-! The offsets of a text at which it can be cut are the lengths of its beginnings. -/

namespace StackPanel.Text

/-- The bytes of two runs of characters add up. -/
@[simp] theorem byteLength_append (left right : List Char) :
    byteLength (left ++ right) = byteLength left + byteLength right := by
  induction left with
  | nil => simp [byteLength]
  -- The first character adds its bytes on both sides.
  | cons c rest ih => simp [byteLength, ih, Nat.add_assoc]

/-- The size of a text is the number of bytes of its characters. -/
theorem utf8ByteSize_ofList (cs : List Char) :
    (String.ofList cs).utf8ByteSize = byteLength cs := by
  induction cs with
  | nil => rfl
  | cons c rest ih =>
    -- The first character is a text of its own in front of the others.
    rw [String.ofList_cons, String.utf8ByteSize_append, String.utf8ByteSize_singleton, ih,
      byteLength]

/-- The bytes of characters are as many as their length says. -/
@[simp] theorem length_bytes (cs : List Char) : (bytes cs).length = byteLength cs := by
  induction cs with
  | nil => rfl
  | cons c rest ih =>
    -- The encoding of a character has as many bytes as its size says.
    have first : (String.utf8EncodeChar c).length = c.utf8Size := String.length_utf8EncodeChar c
    simp only [bytes, List.flatMap_cons, List.length_append, byteLength, first] at ih ⊢
    rw [ih]

/-- Characters are cut in two exactly at the length of the first part. -/
theorem cutAt?_eq_some_iff {cs left right : List Char} {offset : Nat} :
    cutAt? cs offset = some (left, right) ↔ cs = left ++ right ∧ offset = byteLength left := by
  -- The cut walks over whole characters, each of which takes at least one byte.
  induction cs generalizing offset left with
  | nil =>
    cases offset with
    | zero => cases left <;> simp [cutAt?, byteLength, eq_comm]
    | succ offset => cases left <;> simp [cutAt?, byteLength]
  | cons c rest ih =>
    have positive : 0 < c.utf8Size := c.utf8Size_pos
    cases offset with
    | zero =>
      -- At the start nothing stands before the cut, since every character would take room.
      cases left with
      | nil => simp [cutAt?, byteLength, eq_comm]
      | cons first more =>
        have room : 0 < first.utf8Size := first.utf8Size_pos
        simp only [cutAt?, byteLength, Option.some.injEq, Prod.mk.injEq, List.cons_append,
          List.cons.injEq, reduceCtorEq, false_and, false_iff]
        rintro ⟨-, none⟩
        omega
    | succ offset =>
      cases left with
      -- Nothing before the cut means an offset of zero.
      | nil => simp [cutAt?, byteLength]
      | cons first more =>
        simp only [cutAt?, List.cons_append, List.cons.injEq, byteLength]
        by_cases fits : c.utf8Size ≤ offset + 1
        · -- What fits goes before the cut, and the rest is cut at what is left of the offset.
          simp only [fits, if_true, Option.map_eq_some_iff, Prod.exists, Prod.mk.injEq,
            List.cons.injEq]
          constructor
          · rintro ⟨before, after, cut, ⟨rfl, rfl⟩, rfl⟩
            obtain ⟨rfl, length⟩ := ih.mp cut
            exact ⟨⟨rfl, rfl⟩, by omega⟩
          · rintro ⟨⟨rfl, rfl⟩, length⟩
            exact ⟨more, right, ih.mpr ⟨rfl, by omega⟩, ⟨rfl, rfl⟩, rfl⟩
        · -- A character that does not fit cannot stand before the cut.
          simp only [fits, if_false, reduceCtorEq, false_iff]
          rintro ⟨⟨rfl, -⟩, length⟩
          omega

/-- Characters are cut between two runs at the length of the first. -/
theorem cutAt?_append (left right : List Char) :
    cutAt? (left ++ right) (byteLength left) = some (left, right) :=
  cutAt?_eq_some_iff.mpr ⟨rfl, rfl⟩

/-- A boundary is the length of some beginning of the text. -/
theorem isBoundary_iff {text : String} {offset : Nat} :
    IsBoundary text offset ↔
      ∃ left right, text.toList = left ++ right ∧ offset = byteLength left := by
  unfold IsBoundary
  rw [Option.isSome_iff_exists]
  constructor
  · -- A cut that succeeds gives the two parts.
    rintro ⟨⟨left, right⟩, cut⟩
    exact ⟨left, right, cutAt?_eq_some_iff.mp cut⟩
  · rintro ⟨left, right, split⟩
    exact ⟨(left, right), cutAt?_eq_some_iff.mpr split⟩

/-- A boundary lies inside the text. -/
theorem IsBoundary.le {text : String} {offset : Nat} (boundary : IsBoundary text offset) :
    offset ≤ text.utf8ByteSize := by
  -- The part after the cut has some bytes or none.
  obtain ⟨left, right, split, rfl⟩ := isBoundary_iff.mp boundary
  have size : text.utf8ByteSize = byteLength (left ++ right) := by
    rw [← split, ← utf8ByteSize_ofList, String.ofList_toList]
  rw [size, byteLength_append]
  omega

/-- An offset between two runs of characters never lies past the end. -/
theorem min_byteLength (left right : List Char) :
    min (byteLength left) (String.ofList (left ++ right)).utf8ByteSize = byteLength left := by
  rw [utf8ByteSize_ofList, byteLength_append]
  omega

/-- The boundary before an offset is where the last character before it starts. -/
theorem previousBoundary?_append (left right : List Char) :
    previousBoundary? (String.ofList (left ++ right)) (byteLength left) =
      some (byteLength left.dropLast) := by
  simp only [previousBoundary?, before?, min_byteLength, String.toList_ofList, cutAt?_append,
    Option.map_some]

/-- The boundary after an offset is where the first character after it ends. -/
theorem nextBoundary?_append (left right : List Char) :
    nextBoundary? (String.ofList (left ++ right)) (byteLength left) =
      some (byteLength (left ++ right.take 1)) := by
  simp only [nextBoundary?, after?, min_byteLength, String.toList_ofList, cutAt?_append,
    Option.map_some, Option.some.injEq]
  -- At the end of the text there is no such character, and the offset is the end itself.
  cases right with
  | nil => rw [utf8ByteSize_ofList]; rfl
  | cons c rest => simp [byteLength]

end StackPanel.Text

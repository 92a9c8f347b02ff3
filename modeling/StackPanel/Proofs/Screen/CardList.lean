import StackPanel.Screen.CardList

/-! Of all cards that are laid out one bears the marks of the selection: the one at its position. -/

namespace StackPanel.Screen.CardList

/-- Whether a line starts with the pointer to the selected card. -/
def hasPointer (line : Line) : Bool :=
  line.head?.any (·.text = " ▸ ")

/-- Whether a line ends in the hint that the card can be removed. -/
def hasHint (line : Line) : Bool :=
  line.getLast?.any (·.text = "   [d] delete")

/-- Spaces alone are no hint. -/
theorem spaces_ne_hint (count : Nat) :
    String.ofList (List.replicate count ' ') ≠ "   [d] delete" := by
  intro same
  have chars := congrArg String.toList same
  rw [String.toList_ofList] at chars
  -- The bracket of the hint would have to be a space.
  have bracket : '[' ∈ List.replicate count ' ' := by
    rw [chars]
    decide
  have space := List.eq_of_mem_replicate bracket
  contradiction

/-- A status behind its dot is no hint. -/
theorem status_ne_hint (status : String) : "● " ++ status ≠ "   [d] delete" := by
  intro same
  -- The dot is no space, so that the two texts differ in their first character.
  have first := congrArg (fun text => text.toList.head?) same
  simp at first

/-- A label and its value end in spaces. -/
theorem getLast?_entry (columns : Nat) (field : String × String) :
    ∃ count, (entry columns field).getLast? =
      some { text := String.ofList (List.replicate count ' ') } := by
  exact ⟨_, rfl⟩

/-- The lines of labels and values bear no mark. -/
theorem entries_unmarked (columns : Nat) (fields : List (String × String)) :
    ∀ line ∈ entries columns fields, hasPointer line = false ∧ hasHint line = false := by
  -- Every line starts with the same spaces and ends in those after its last value.
  induction fields using entries.induct with
  | case1 left right rest ih =>
    intro line member
    rcases List.mem_cons.mp member with rfl | later
    · -- The line ends in the padding behind its second value, which is made of spaces.
      obtain ⟨count, last⟩ := getLast?_entry columns right
      refine ⟨by simp [hasPointer], ?_⟩
      simp [hasHint, List.getLast?_append, List.getLast?_cons, last, spaces_ne_hint]
    · exact ih line later
  | case2 last =>
    intro line member
    -- A field that is left alone has a line of its own, which ends in the same way.
    obtain rfl := List.mem_singleton.mp member
    obtain ⟨count, ends⟩ := getLast?_entry columns last
    refine ⟨by simp [hasPointer], ?_⟩
    simp [hasHint, List.getLast?_cons, ends, spaces_ne_hint]
  | case3 => simp [entries]

/-- The header of a card bears both marks if the card is selected, and otherwise none. -/
theorem marks_header (card : StackCard) (selected : Bool) :
    hasPointer (header card selected) = selected ∧ hasHint (header card selected) = selected := by
  -- What is put around the id and behind the status depends on being selected.
  cases selected with
  | true => exact ⟨by simp [hasPointer, header], by simp [hasHint, header]⟩
  | false =>
    refine ⟨by simp [hasPointer, header], ?_⟩
    simp [hasHint, header, status_ne_hint]

/-- A mark of the selection, which is on a line that is the header of the selected card. -/
structure IsMark (mark : Line → Bool) : Prop where
  header : ∀ card selected, mark (header card selected) = selected
  entries : ∀ columns fields, ∀ line ∈ entries columns fields, mark line = false
  empty : mark [] = false

/-- The pointer is a mark of the selection. -/
theorem isMark_hasPointer : IsMark hasPointer where
  header card selected := (marks_header card selected).1
  entries columns fields line member := (entries_unmarked columns fields line member).1
  empty := rfl

/-- The hint is a mark of the selection. -/
theorem isMark_hasHint : IsMark hasHint where
  header card selected := (marks_header card selected).2
  entries columns fields line member := (entries_unmarked columns fields line member).2
  empty := rfl

variable {mark : Line → Bool}

/-- Of the lines of a card the header alone is marked, and only if the card is selected. -/
theorem IsMark.filter_cardLines (marks : IsMark mark) (columns : Nat) (card : StackCard)
    (selected : Bool) :
    (cardLines columns card selected).filter mark =
      if selected = true then [CardList.header card true] else [] := by
  -- No line with fields is marked, and neither is the empty line below them.
  have fields : (CardList.entries columns card.fields).filter mark = [] := by
    rw [List.filter_eq_nil_iff]
    intro line member
    simp [marks.entries columns card.fields line member]
  -- The header is all that is left to look at.
  cases selected <;> simp [cardLines, marks.header, fields, marks.empty]

/-- What one position of a list contributes, where all others contribute nothing. -/
theorem flatten_mapIdx_single {α β : Type} (piece : α → List β) (items : List α) (position : Nat) :
    (items.mapIdx fun i item => if i = position then piece item else []).flatten =
      (items[position]?.map piece).getD [] := by
  -- The position counts down to the item in question.
  induction items generalizing position with
  | nil => simp
  | cons item rest ih =>
    -- Either the first item is the one, or it is further on by one position less.
    cases position with
    | zero => simp [List.mapIdx_cons]
    | succ position => simpa [List.mapIdx_cons] using ih position

/-- Of all lines that are laid out exactly one is marked: the header of the card at the selected
position. -/
theorem IsMark.filter_layout (marks : IsMark mark) (columns : Nat) {selected : Nat}
    {cards : List StackCard} {card : StackCard} (found : cards[selected]? = some card) :
    (layout columns selected cards).lines.filter mark = [CardList.header card true] := by
  -- However the selected block is found, the lines are those of all blocks.
  have lines : (layout columns selected cards).lines =
      (cards.mapIdx fun i card => cardLines columns card (i = selected)).flatten := by
    unfold layout
    simp only
    split <;> rfl
  -- Card by card, only the one at the selected position keeps a line, and that is its header.
  have kept : (cards.mapIdx fun i card => cardLines columns card (i = selected)).map
        (List.filter mark) =
      cards.mapIdx fun i card => if i = selected then [CardList.header card true] else [] := by
    -- The two lists are compared position by position, since the mark depends on the position.
    apply List.ext_getElem?
    intro position
    rw [List.getElem?_map, List.getElem?_mapIdx, List.getElem?_mapIdx, Option.map_map]
    congr 1
    funext card
    simp [marks.filter_cardLines]
  rw [lines, List.filter_flatten, kept, flatten_mapIdx_single, found]
  rfl

/-- Whether one card alone is laid out as the selected one of a list: in any number of columns, its
header is the only line with the pointer and the only one with the hint. -/
def SelectedAlone (list : StackList) (card : StackCard) : Prop :=
  ∀ columns, ∀ mark ∈ [hasPointer, hasHint],
    (layout columns list.selected list.cards).lines.filter mark = [header card true]

/-- The selected card alone is laid out as such. -/
theorem selectedAlone_of_selectedCard? {list : StackList} {card : StackCard}
    (found : list.selectedCard? = some card) : SelectedAlone list card := by
  intro columns mark listed
  -- Each of the two marks is a mark of the selection, and the filter keeps the header for any of
  -- them.
  simp only [List.mem_cons, List.not_mem_nil, or_false] at listed
  rcases listed with rfl | rfl
  · exact isMark_hasPointer.filter_layout columns found
  · exact isMark_hasHint.filter_layout columns found

end StackPanel.Screen.CardList

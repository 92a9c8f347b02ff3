import StackPanel.Proofs.Screen.CardList

/-! The selected card is in view as long as the lines to skip can be counted in sixteen bits. -/

namespace StackPanel.Screen.CardList

/-- The lines of laid out cards that are in view in some rows. -/
def Layout.window (layout : Layout) (visible : Nat) : List Line :=
  (layout.lines.drop (scroll layout visible).toNat).take visible

/-- A box with cards in it shows the lines in view, as far as they fit. -/
theorem draw_cards {list : StackList} {cards : List StackCard}
    (content : list.content = .cards cards) (columns rows : Nat) :
    ∃ box : Box, box.columns = columns ∧ box.rows = rows ∧
      draw list columns rows = box.draw
        (((layout (halfColumns (columns - 2)) list.selected list.cards).window (rows - 2)).map
          fun line => Line.fitting line (columns - 2)) := by
  have same : list.cards = cards := by rw [StackList.cards, content]
  -- A list that shows cards is drawn from these and no placeholder.
  unfold draw
  rw [content, same]
  exact ⟨_, rfl, rfl, rfl⟩

section Window

variable {line : Line} {before block after : List Line} {offset visible : Nat}

/-- Lines between the first and the last row of a window are in it one after another. -/
theorem isInfix_window (above : offset ≤ before.length)
    (below : before.length + block.length ≤ offset + visible) :
    block <:+: ((before ++ (block ++ after)).drop offset).take visible := by
  rw [List.drop_append_of_le_length above, ← List.append_assoc, List.take_append]
  -- The lines that are left of the first part and the block fit into the window together.
  have enough : (before.drop offset ++ block).length ≤ visible := by
    rw [List.length_append, List.length_drop]
    omega
  rw [List.take_of_length_le enough]
  exact ⟨_, _, rfl⟩

/-- A window that ends above some lines shows none of them. -/
theorem mem_of_mem_window (ends : offset + visible ≤ before.length)
    (member : line ∈ ((before ++ after).drop offset).take visible) : line ∈ before := by
  -- The window ends inside the first part, so that nothing behind it is reached.
  have inside : visible ≤ (before.drop offset).length := by
    rw [List.length_drop]
    omega
  rw [List.drop_append_of_le_length (by omega), List.take_append_of_le_length inside] at member
  exact List.mem_of_mem_drop (List.mem_of_mem_take member)

end Window

/-- The lines of cards that are not selected. -/
def unselectedLines (columns : Nat) (cards : List StackCard) : List Line :=
  cards.flatMap fun card => cardLines columns card false

/-- The selected card is laid out between the lines of those before it and others. -/
theorem layout_eq (columns : Nat) {selected : Nat} {cards : List StackCard} {card : StackCard}
    (found : cards[selected]? = some card) :
    ∃ after, layout columns selected cards = {
      lines := unselectedLines columns (cards.take selected) ++
        (cardLines columns card true ++ after)
      start := (unselectedLines columns (cards.take selected)).length
      stop := (unselectedLines columns (cards.take selected)).length +
        (cardLines columns card true).length } := by
  let blocks := cards.mapIdx fun i card => cardLines columns card (i = selected)
  have block : blocks[selected]? = some (cardLines columns card true) := by
    simp [blocks, List.getElem?_mapIdx, found]
  -- No position before the selected one is selected.
  have earlier : blocks.take selected =
      (cards.take selected).map fun card => cardLines columns card false := by
    apply List.ext_getElem?
    intro i
    rw [List.getElem?_take, List.getElem?_map, List.getElem?_take]
    split
    · next before => simp [blocks, List.getElem?_mapIdx, Nat.ne_of_lt before]
    · rfl
  -- The blocks split at the selected one, which is the block of its card.
  obtain ⟨within, here⟩ := List.getElem?_eq_some_iff.mp block
  have whole : blocks.flatten = (blocks.take selected).flatten ++
      (cardLines columns card true ++ (blocks.drop (selected + 1)).flatten) := by
    rw [← here, ← List.flatten_cons, List.getElem_cons_drop, ← List.flatten_append,
      List.take_append_drop]
  refine ⟨(blocks.drop (selected + 1)).flatten, ?_⟩
  -- The lines before it are those of cards without the mark.
  have start : unselectedLines columns (cards.take selected) = (blocks.take selected).flatten := by
    rw [earlier, unselectedLines, List.flatMap_def]
  rw [start, ← whole]
  unfold layout
  simp only [blocks] at block ⊢
  rw [block]

/-- Whether the lines to skip above the selected card can be counted in sixteen bits. -/
def Counted (selected visible : Nat) : Prop :=
  min (8 * selected + 8 - visible) (8 * selected) < UInt16.size

section Summaries

variable {summaries : List StackSummary} {summary : StackSummary} {selected visible : Nat}
  (columns : Nat)

/-- The card of a stack takes eight lines: a header, six with its fields and an empty one. -/
theorem length_cardLines (summary : StackSummary) (selected : Bool) :
    (cardLines columns (StackCard.ofSummary summary) selected).length = 8 := rfl

/-- The cards before the selected one take eight lines each. -/
theorem length_unselectedLines (within : selected ≤ summaries.length) :
    (unselectedLines columns ((summaries.map StackCard.ofSummary).take selected)).length =
      8 * selected := by
  rw [← List.map_take, unselectedLines, List.length_flatMap, List.map_map]
  -- Each card takes eight lines, whatever its stack is.
  have each : (fun card => (cardLines columns card false).length) ∘ StackCard.ofSummary =
      fun _ : StackSummary => 8 := rfl
  rw [each, List.map_const', List.sum_replicate_nat, List.length_take, Nat.min_eq_left within]
  exact Nat.mul_comm _ _

variable (found : summaries[selected]? = some summary)

include found

/-- The cards of stacks are laid out in eight lines each. -/
theorem layout_summaries : ∃ before after,
    layout columns selected (summaries.map StackCard.ofSummary) =
      { lines := before ++ (cardLines columns (StackCard.ofSummary summary) true ++ after)
        start := 8 * selected
        stop := 8 * selected + 8 } ∧
    before.length = 8 * selected ∧ ∀ line ∈ before, hasPointer line = false := by
  have card : (summaries.map StackCard.ofSummary)[selected]? =
      some (StackCard.ofSummary summary) := by
    rw [List.getElem?_map, found]
    rfl
  -- The selected position lies within the list, so there are that many cards before it.
  obtain ⟨within, -⟩ := List.getElem?_eq_some_iff.mp found
  have count := length_unselectedLines columns (Nat.le_of_lt within)
  obtain ⟨after, shape⟩ := layout_eq columns card
  rw [count, length_cardLines] at shape
  refine ⟨_, after, shape, count, ?_⟩
  intro line member
  obtain ⟨other, -, inside⟩ := List.mem_flatMap.mp member
  -- A marked line of a card that is not selected would be left by the filter for marks.
  have unmarked := isMark_hasPointer.filter_cardLines columns other false
  rw [if_neg (by decide), List.filter_eq_nil_iff] at unmarked
  exact Bool.eq_false_iff.mpr (unmarked line inside)

/-- The lines to skip are counted modulo the numbers of sixteen bits. -/
theorem scroll_summaries (visible : Nat) :
    (scroll (layout columns selected (summaries.map StackCard.ofSummary)) visible).toNat =
      min (8 * selected + 8 - visible) (8 * selected) % UInt16.size := by
  -- The first line to skip is cut to sixteen bits when it is handed over, and nothing else happens.
  obtain ⟨before, after, shape, -, -⟩ := layout_summaries columns found
  rw [shape]
  rfl

/-- If the lines to skip can be counted, as much of the selected card is in view as there are rows
for. -/
theorem take_isInfix_window (counted : Counted selected visible) :
    (cardLines columns (StackCard.ofSummary summary) true).take visible <:+:
      (layout columns selected (summaries.map StackCard.ofSummary)).window visible := by
  have skipped := scroll_summaries columns found visible
  -- A number that can be counted is its own remainder.
  rw [Nat.mod_eq_of_lt counted] at skipped
  obtain ⟨before, after, shape, count, -⟩ := layout_summaries columns found
  -- Of the eight lines of the card as many are in view as there are rows.
  have length : ((cardLines columns (StackCard.ofSummary summary) true).take visible).length =
      min visible 8 := by
    rw [List.length_take, length_cardLines]
  rw [Layout.window, skipped, shape]
  generalize cardLines columns (StackCard.ofSummary summary) true = card at length ⊢
  -- The part of the card that is in view is a block of its own between the lines around it.
  have lines : card ++ after = card.take visible ++ (card.drop visible ++ after) := by
    rw [← List.append_assoc, List.take_append_drop]
  rw [lines]
  exact isInfix_window (by omega) (by omega)

/-- If they cannot, the lines in view end above the header of the selected card. -/
theorem header_notMem_window (uncounted : ¬Counted selected visible) :
    header (StackCard.ofSummary summary) true ∉
      (layout columns selected (summaries.map StackCard.ofSummary)).window visible := by
  have skipped := scroll_summaries columns found visible
  obtain ⟨before, after, shape, count, unmarked⟩ := layout_summaries columns found
  -- At least 2 ^ 16 lines too few are skipped, which are more than those of the card.
  have ends : min (8 * selected + 8 - visible) (8 * selected) % UInt16.size + visible ≤
      before.length := by
    unfold Counted UInt16.size at *
    omega
  rw [Layout.window, skipped, shape]
  intro member
  have marked := isMark_hasPointer.header (StackCard.ofSummary summary) true
  rw [unmarked _ (mem_of_mem_window ends member)] at marked
  contradiction

/-- With a row to show it, the header of the selected card is in view if the lines to skip can be
counted, and otherwise not. -/
theorem header_mem_window_iff (some_row : 1 ≤ visible) :
    header (StackCard.ofSummary summary) true ∈
      (layout columns selected (summaries.map StackCard.ofSummary)).window visible ↔
    Counted selected visible := by
  constructor
  · -- The header cannot be in view where the view ends above it.
    intro shown
    refine Classical.byContradiction fun uncounted => ?_
    exact header_notMem_window columns found uncounted shown
  · intro counted
    have shown := take_isInfix_window columns found counted
    -- With one row at least the header is the first of the lines in view.
    obtain ⟨more, rfl⟩ := Nat.exists_eq_add_of_le' some_row
    exact shown.subset List.mem_cons_self

/-- With rows for all of its lines, the whole selected card is in view if the lines to skip can be
counted, and otherwise not. -/
theorem cardLines_isInfix_window_iff (rows_enough : 8 ≤ visible) :
    cardLines columns (StackCard.ofSummary summary) true <:+:
      (layout columns selected (summaries.map StackCard.ofSummary)).window visible ↔
    Counted selected visible := by
  constructor
  · intro shown
    -- The header is one of the lines of the card, so it would be in view as well.
    have header := shown.subset List.mem_cons_self
    refine Classical.byContradiction fun uncounted => ?_
    exact header_notMem_window columns found uncounted header
  · intro counted
    have shown := take_isInfix_window columns found counted
    -- There is room for the whole card, so its part in view is all of it.
    rw [List.take_of_length_le (by rw [length_cardLines]; exact rows_enough)] at shown
    exact shown

end Summaries

/-- A box with the cards of stacks shows their lines from some line on. With a row at least, the
header of the selected card is among them, and with eight rows all of its eight lines are, exactly
if the lines to skip can be counted in sixteen bits, as those of at most 8192 cards can. -/
theorem selected_in_view_iff_counted {list : StackList} {summaries : List StackSummary}
    {summary : StackSummary} (content : list.content = .cards (summaries.map StackCard.ofSummary))
    (found : summaries[list.selected]? = some summary) (columns rows : Nat) :
    let visible := rows - 2
    let half := halfColumns (columns - 2)
    let card := StackCard.ofSummary summary
    let view := (layout half list.selected list.cards).window visible
    (∃ box : Box, box.columns = columns ∧ box.rows = rows ∧
      draw list columns rows =
        box.draw (view.map fun line => Line.fitting line (columns - 2))) ∧
    (cardLines half card true).length = 8 ∧
    (1 ≤ visible → (header card true ∈ view ↔ Counted list.selected visible)) ∧
    (8 ≤ visible → (cardLines half card true <:+: view ↔ Counted list.selected visible)) ∧
    (summaries.length ≤ 8192 → Counted list.selected visible) := by
  intro visible half card view
  have same : list.cards = summaries.map StackCard.ofSummary := by
    rw [StackList.cards, content]
  -- A position past the list would find no card.
  obtain ⟨within, -⟩ := List.getElem?_eq_some_iff.mp found
  refine ⟨draw_cards content columns rows, length_cardLines half summary true, ?_, ?_, ?_⟩
  · -- The list shows the cards of its stacks, for which both equivalences have been shown.
    intro some_row
    simp only [view, same]
    exact header_mem_window_iff half found some_row
  · intro rows_enough
    simp only [view, same]
    exact cardLines_isInfix_window_iff half found rows_enough
  · -- Even 8192 cards of eight lines are no more than sixteen bits can count.
    intro few
    unfold Counted UInt16.size
    omega

/-- Eight rows inside the border show the last of two cards as a whole. -/
theorem lastOfTwo_in_view :
    let last : StackSummary := { stackId := "s" }
    let list : StackList :=
      { content := .cards ([{}, last].map StackCard.ofSummary), selected := 1 }
    cardLines (halfColumns 78) (StackCard.ofSummary last) true <:+:
      (layout (halfColumns 78) list.selected list.cards).window 8 := by
  intro last list
  -- The second of two cards is selected, which is within the limit.
  have content : list.content = .cards ([{}, last].map StackCard.ofSummary) := rfl
  have found : [{}, last][list.selected]? = some last := rfl
  obtain ⟨-, -, -, whole, few⟩ := selected_in_view_iff_counted content found 80 10
  exact (whole (by decide)).mpr (few (by decide))

/-- Of 8193 cards the last one is out of view, even its header, since 2 ^ 16 lines are to be skipped
above it and none is. -/
theorem lastOfMany_out_of_view :
    let cards := List.replicate 8193 (StackCard.ofSummary {})
    header (StackCard.ofSummary {}) true ∉ (layout (halfColumns 78) 8192 cards).window 8 := by
  intro cards
  let nothing : StackSummary := {}
  -- All cards are those of one stack, which is also the last one.
  have same : cards = (List.replicate 8193 nothing).map StackCard.ofSummary := by
    rw [List.map_replicate]
  have found : (List.replicate 8193 nothing)[8192]? = some nothing := by
    rw [List.getElem?_replicate, if_pos (by decide)]
  -- The line to start from would be 65536, the first number that is too large.
  have uncounted : ¬Counted 8192 8 := by
    unfold Counted
    decide
  rw [same]
  exact header_notMem_window (halfColumns 78) found uncounted

end StackPanel.Screen.CardList

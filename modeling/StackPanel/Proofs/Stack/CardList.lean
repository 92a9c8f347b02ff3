import StackPanel.Stack.Card

/-! The list of stacks keeps its selection on a card, and each card shows the id that it carries. -/

namespace StackPanel

/-- The card of a stack whose id is not blank shows the trimmed id. -/
theorem StackCard.stackId_ofSummary {summary : StackSummary}
    (filled : Text.blank summary.stackId = false) :
    (ofSummary summary).stackId = Text.trim summary.stackId := by
  simp [ofSummary, Display.text, filled]

namespace StackList

/-- Whether a list that shows cards shows at least one, each the card of some stack, and has its
selection on one of them, and whether a list without cards has its selection at the start. -/
structure SelectsCard (list : StackList) : Prop where
  placed : list.selected < list.cards.length ∨ list.cards = [] ∧ list.selected = 0
  filled : ∀ cards, list.content = .cards cards → cards ≠ []
  made : ∀ card ∈ list.cards, ∃ summary, card = .ofSummary summary

/-- The list at the start has nothing to select. -/
theorem selectsCard_initial : initial.SelectsCard where
  placed := .inr ⟨rfl, rfl⟩
  filled cards same := by simp [initial] at same
  made card member := by simp [initial, cards] at member

/-- A line in place of the cards leaves nothing to select. -/
theorem selectsCard_renderPlaceholder (message : String) :
    (renderPlaceholder message).SelectsCard where
  placed := .inr ⟨rfl, rfl⟩
  filled cards same := by simp [renderPlaceholder] at same
  made card member := by simp [renderPlaceholder, cards] at member

/-- A fetched list has one card for each stack. -/
theorem cards_render (list : StackList) (summaries : List StackSummary) :
    (list.render summaries).cards = summaries.map StackCard.ofSummary := by
  -- A list without stacks shows a line in place of cards, so it has none.
  cases summaries <;> simp [render, contentOf, cards]

/-- However long the list was before, a fetched list has the selection on one of its own cards. -/
theorem selectsCard_render (list : StackList) (summaries : List StackSummary) :
    (list.render summaries).SelectsCard where
  placed := by
    rw [cards_render]
    cases summaries with
    -- Nothing can be selected, and the position falls back to the start.
    | nil => exact .inr ⟨rfl, Nat.min_zero _⟩
    | cons first rest =>
      -- The last position of a list with cards is one less than their number.
      refine .inl ?_
      simp only [render, List.length_map, List.length_cons]
      omega
  filled cards same := by
    -- No cards means a line in place of them, so a list that shows cards had a stack.
    cases summaries with
    | nil => simp [render, contentOf] at same
    | cons first rest =>
      obtain rfl : _ = cards := by simpa [render, contentOf] using same
      simp
  made card member := by
    -- Every card was made of the summary that stood in its place.
    rw [cards_render] at member
    obtain ⟨summary, -, made⟩ := List.mem_map.mp member
    exact ⟨summary, made.symm⟩

variable {list : StackList} (selects : list.SelectsCard)

include selects

/-- Going to the next card stays on a card. -/
theorem SelectsCard.selectNext : list.selectNext.SelectsCard := by
  unfold StackList.selectNext
  split
  -- It goes on only where a card follows.
  · next inside => exact { placed := .inl inside, filled := selects.filled, made := selects.made }
  · exact selects

/-- Going to the card before stays on a card. -/
theorem SelectsCard.selectPrevious : list.selectPrevious.SelectsCard where
  placed := by
    rcases selects.placed with inside | ⟨nothing, start⟩
    · -- One position back is still before the end, or it is the start and stays there.
      exact .inl (Nat.lt_of_le_of_lt (Nat.sub_le _ _) inside)
    · exact .inr ⟨nothing, by simp [StackList.selectPrevious, start]⟩
  filled := selects.filled
  made := selects.made

/-- The selected position is the first one or that of a card. -/
theorem SelectsCard.inRange : list.selected = 0 ∨ list.selected < list.cards.length := by
  rcases selects.placed with inside | ⟨-, start⟩
  · exact .inr inside
  · exact .inl start

/-- Where cards are shown one of them is selected, and it is the card of some stack. -/
theorem SelectsCard.selectedCard?_eq {cards : List StackCard}
    (shown : list.content = .cards cards) :
    ∃ summary, list.selectedCard? = some (.ofSummary summary) := by
  -- The cards to select from are those that are shown.
  have same : list.cards = cards := by simp [StackList.cards, shown]
  rcases selects.placed with inside | ⟨nothing, -⟩
  · obtain ⟨summary, made⟩ := selects.made _ (List.getElem_mem inside)
    refine ⟨summary, ?_⟩
    rw [selectedCard?, List.getElem?_eq_getElem inside, made]
  · -- A list that shows cards shows at least one.
    exact absurd (same ▸ nothing) (selects.filled cards shown)

end StackList

end StackPanel

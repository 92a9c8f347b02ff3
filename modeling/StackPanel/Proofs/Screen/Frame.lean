import Mathlib.Tactic.SplitIfs
import StackPanel.Screen.Frame

/-! However many rows a screen has, it is filled by what is drawn on it. -/

namespace StackPanel.Screen

/-- A box takes the rows it was given, whatever lines are in it. -/
theorem Box.length_draw (box : Box) (lines : List (List Glyph)) :
    (box.draw lines).length = box.rows := by
  -- Lines that are missing are made up for, and those that are too many are dropped.
  simp only [draw, innerRows, List.length_take, List.length_append, List.length_map,
    List.length_cons, List.length_replicate, List.length_nil]
  omega

/-- The cards take the rows they were given. -/
theorem CardList.length_draw (list : StackList) (columns rows : Nat) :
    (CardList.draw list columns rows).length = rows :=
  Box.length_draw _ _

/-- A form takes the rows it was given. -/
theorem Form.length_draw (form : Form) (columns rows : Nat) :
    (form.draw columns rows).length = rows :=
  Box.length_draw _ _

/-- The console takes the rows it was given. -/
theorem length_console (terminal : Terminal) (columns rows : Nat) :
    (console terminal columns rows).length = rows :=
  Box.length_draw _ _

/-- A bar takes one row if it is shown, and none otherwise. -/
theorem length_barRows (isShown : Bool) (bar : Row) :
    (barRows isShown bar).length = isShown.toNat := by
  -- The row of a bar is all that is there, if there is one.
  cases isShown with
  | false => rfl
  | true => rfl

namespace Layout

/-- The rows that are shared out. -/
def rows (layout : Layout) : Nat :=
  layout.showsTabs.toNat + layout.panelRows + layout.consoleRows + layout.showsStatus.toNat +
    layout.showsHints.toNat

/-- The panel and the bars leave five rows, or all of a screen that has fewer. -/
theorem panelRows_add_bars_le (rows : Nat) :
    Screen.panelRows rows +
      ((decide (8 ≤ rows)).toNat + (decide (6 ≤ rows)).toNat + (decide (7 ≤ rows)).toNat) +
      min 5 rows ≤ rows := by
  -- The three bars are counted by whether the screen has the rows for them.
  have counted (shown : Prop) [Decidable shown] :
      (decide shown).toNat = if shown then 1 else 0 := apply_ite Bool.toNat shown true false
  -- A bar is shown only where its row does not take one of the five.
  simp only [Screen.panelRows, counted]
  split_ifs <;> omega

/-- All rows of a screen are shared out, and no others. -/
theorem rows_ofSize (columns rows : Nat) : (ofSize columns rows).rows = rows := by
  have left := panelRows_add_bars_le rows
  -- What the console gets is whatever the other parts leave over.
  simp only [Layout.rows, ofSize]
  omega

/-- The console gets five rows, or all of a screen that has fewer. -/
theorem le_consoleRows_ofSize (columns rows : Nat) :
    min 5 rows ≤ (ofSize columns rows).consoleRows := by
  have left := panelRows_add_bars_le rows
  -- The same share-out, read from the side of the console.
  simp only [ofSize]
  omega

end Layout

/-- A screen is drawn in the rows that were shared out. -/
theorem Frame.length_drawIn (layout : Layout) (terminal : Terminal) :
    (drawIn layout terminal).rows.length = layout.rows := by
  simp only [drawIn, List.length_append, length_barRows, length_console]
  -- A tab without a form shows the cards.
  cases Form.ofTab? terminal terminal.panel.tab with
  | none => rw [CardList.length_draw, Layout.rows]
  | some form => rw [Form.length_draw, Layout.rows]

/-- A screen is drawn in as many rows as it has. -/
theorem Frame.length_draw (terminal : Terminal) (columns rows : Nat) :
    (draw terminal columns rows).rows.length = rows := by
  rw [draw, length_drawIn, Layout.rows_ofSize]

end StackPanel.Screen

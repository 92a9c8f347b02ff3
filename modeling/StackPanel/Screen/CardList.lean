import StackPanel.Screen.Box
import StackPanel.Screen.Palette
import StackPanel.Stack.Card
import StackPanel.Text.Truncate

/-! The list of stacks as it is drawn, with the selected card always in view. -/

namespace StackPanel.Screen.CardList

/-- The columns of a label on a card. -/
def labelColumns : Nat := 10

/-- Text with spaces after it, up to a number of characters. -/
def padded (count : Nat) (text : String) : String :=
  text ++ String.ofList (List.replicate (count - text.length) ' ')

/-- The first line of a card. -/
def header (card : StackCard) (selected : Bool) : Line :=
  let color : Color := if selected then .cyan else .white
  [{ text := if selected then " ▸ " else "   ", style := .colored .cyan },
    { text := card.stackId, style := .strong color },
    { text := "  " },
    { text := "● " ++ card.status, style := .colored (Palette.status card.statusClass) }] ++
    if selected then [{ text := "   [d] delete", style := .colored (.rgb 150 70 70) }] else []

/-- A label and its value, cut and padded to the columns of one half of a card. -/
def entry (columns : Nat) (field : String × String) : Line :=
  let room := columns - (labelColumns + 1)
  let shown := Text.truncate field.2.toList room
  [{ text := padded labelColumns field.1 ++ " ", style := .colored Palette.label },
    { text := String.ofList shown, style := .colored (.rgb 200 200 215) },
    -- Two spaces keep the values of the two halves apart.
    { text := String.ofList (List.replicate (room - Text.columns shown + 2) ' ') }]

/-- Labels and values, two to a line. -/
def entries (columns : Nat) : List (String × String) → List Line
  | left :: right :: rest =>
    ({ text := "    " } :: entry columns left ++ entry columns right) :: entries columns rest
  | [last] => [{ text := "    " } :: entry columns last]
  | [] => []

/-- The lines of a card: a header, its fields and an empty line. -/
def cardLines (columns : Nat) (card : StackCard) (selected : Bool) : List Line :=
  header card selected :: entries columns card.fields ++ [[]]

/-- The lines of all cards, and the lines before and up to the end of the selected one. -/
structure Layout where
  /-- The lines of all cards. -/
  lines : List Line
  /-- The number of lines before the selected card. -/
  start : Nat
  /-- The number of lines up to its end. -/
  stop : Nat

/-- Lays cards out below one another, given the position of the selected one. -/
def layout (columns : Nat) (selected : Nat) (cards : List StackCard) : Layout :=
  let blocks := cards.mapIdx fun i card => cardLines columns card (i = selected)
  let start := (blocks.take selected).flatten.length
  match blocks[selected]? with
  | some block => { lines := blocks.flatten, start, stop := start + block.length }
  -- With no card selected there is nothing to keep in view.
  | none => { lines := blocks.flatten, start := 0, stop := 0 }

/-- The lines to skip so that the selected card is in view, counted in sixteen bits. -/
def scroll (layout : Layout) (visible : Nat) : UInt16 :=
  -- Far enough for the last line of the card, but never past its first one.
  UInt16.ofNat (min (layout.stop - visible) layout.start)

/-- The columns of one half of a card. -/
def halfColumns (inner : Nat) : Nat :=
  max ((inner - 4) / 2) (labelColumns + 4)

/-- The title of the list. -/
def title (count : Nat) : String :=
  if count = 0 then " stacks " else " stacks (" ++ toString count ++ ") "

/-- The list of stacks in a box. -/
def draw (list : StackList) (columns rows : Nat) : List Row :=
  let box : Box := {
    columns
    rows
    border := Palette.border
    title := { text := title list.cards.length, style := .colored Palette.label } }
  let shown : List Line := match list.content with
    | .placeholder message => [[], [{ text := "  " ++ message, style := .colored Palette.dim }]]
    | .cards cards =>
      let layout := layout (halfColumns box.innerColumns) list.selected cards
      layout.lines.drop (scroll layout box.innerRows).toNat
  box.draw ((shown.take box.innerRows).map fun line => Line.fitting line box.innerColumns)

end StackPanel.Screen.CardList

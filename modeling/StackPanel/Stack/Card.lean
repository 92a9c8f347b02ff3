import StackPanel.Stack.Display
import StackPanel.Stack.Status

/-! Cards, the list of them, and the selection that moves over it. -/

namespace StackPanel

/-- One stack as the list shows it. -/
structure StackCard where
  /-- The id as shown in the header. -/
  stackId : String
  /-- The status as shown in the header. -/
  status : String
  /-- The class that colours the status. -/
  statusClass : StatusClass
  /-- Labels and values below the header, in order. -/
  fields : List (String × String)
  /-- The id, as sent by the service, that the card's delete control carries. -/
  deleteTarget : String
  deriving DecidableEq

/-- The card of a stack. -/
def StackCard.ofSummary (summary : StackSummary) : StackCard :=
  { stackId := Display.text (some summary.stackId)
    status := Display.text summary.status
    statusClass := StatusClass.of summary.status
    fields := [
      ("namespace", Display.text summary.space),
      ("pod", Display.text summary.podId),
      ("service", Display.text summary.serviceName),
      ("node", Display.text summary.nodeId),
      ("public ip", Display.text summary.nodePublicIp),
      ("ports", Display.ports summary),
      ("cpu", Display.processor summary.cpuMilli),
      ("memory", Display.memory summary.memoryBytes),
      ("ttl", Display.timestamp summary.ttlExpiresAt),
      ("created", Display.timestamp summary.createdAt),
      ("updated", Display.timestamp summary.updatedAt)]
    deleteTarget := summary.stackId }

/-- What the list shows: cards, or one line that says why there are none. -/
inductive ListContent where
  | placeholder (message : String)
  | cards (cards : List StackCard)
  deriving DecidableEq

/-- The list of stacks and the selected position in it. -/
structure StackList where
  /-- What is shown. -/
  content : ListContent
  /-- The selected position. -/
  selected : Nat
  deriving DecidableEq

namespace StackList

/-- The line before any list has been fetched. -/
def notLoaded : String := "not loaded yet (press r to refresh)"

/-- The line for a list without stacks. -/
def noResults : String := "no stacks"

/-- The list at the start. -/
def initial : StackList :=
  { content := .placeholder notLoaded, selected := 0 }

/-- The cards shown. -/
def cards (list : StackList) : List StackCard :=
  match list.content with
  | .cards cards => cards
  | .placeholder _ => []

/-- What is shown for a fetched list: one card for each stack, in order. -/
def contentOf (summaries : List StackSummary) : ListContent :=
  if summaries.isEmpty then .placeholder noResults
  else .cards (summaries.map StackCard.ofSummary)

/-- Replaces everything by a fetched list and keeps the selection inside it. -/
def render (list : StackList) (summaries : List StackSummary) : StackList :=
  { content := contentOf summaries, selected := min list.selected (summaries.length - 1) }

/-- Replaces everything by one line. -/
def renderPlaceholder (message : String) : StackList :=
  { content := .placeholder message, selected := 0 }

/-- Selects the next card, if there is one. -/
def selectNext (list : StackList) : StackList :=
  if list.selected + 1 < list.cards.length then { list with selected := list.selected + 1 }
  else list

/-- Selects the card before, if there is one. -/
def selectPrevious (list : StackList) : StackList :=
  { list with selected := list.selected - 1 }

/-- The selected card. -/
def selectedCard? (list : StackList) : Option StackCard :=
  list.cards[list.selected]?

end StackList

end StackPanel

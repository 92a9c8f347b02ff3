import StackPanel.Screen.Style
import StackPanel.Stack.Status

/-! The colours of the panel. -/

namespace StackPanel.Screen.Palette

/-- Labels and titles. -/
def label : Color := .rgb 100 95 140

/-- Notes and placeholders. -/
def dim : Color := .rgb 65 60 95

/-- Borders. -/
def border : Color := .rgb 40 40 60

/-- Things that are well. -/
def good : Color := .rgb 0 200 120

/-- Things that failed. -/
def bad : Color := .rgb 230 80 80

/-- Things to watch. -/
def warning : Color := .rgb 200 160 50

/-- Ids of stacks created here. -/
def created : Color := .rgb 140 120 220

/-- The colour of a status. -/
def status : StatusClass → Color
  | .creating => .rgb 220 180 40
  | .running => good
  | .stopped => .rgb 130 130 150
  | .failed => bad
  | .nodeDeleted => .rgb 200 110 220
  | .unknown => .darkGray

end StackPanel.Screen.Palette

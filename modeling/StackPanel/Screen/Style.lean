/-! Colours and styles of text on the screen. -/

namespace StackPanel.Screen

/-- A colour, either one that the terminal defines or a mixture. -/
inductive Color where
  | default
  | cyan
  | white
  | yellow
  | darkGray
  | rgb (red green blue : Nat)
  deriving DecidableEq

/-- How text is drawn; a colour that is left open stays as it was below. -/
structure Style where
  /-- The colour of the text. -/
  foreground : Option Color := none
  /-- The colour behind the text. -/
  background : Option Color := none
  /-- Whether the text is bold. -/
  bold : Bool := false
  /-- Whether the text is underlined. -/
  underlined : Bool := false
  deriving DecidableEq

/-- Text in a colour. -/
def Style.colored (color : Color) : Style :=
  { foreground := some color }

/-- Bold text in a colour. -/
def Style.strong (color : Color) : Style :=
  { foreground := some color, bold := true }

/-- A colour behind whatever is drawn on it. -/
def Style.behind (color : Color) : Style :=
  { background := some color }

end StackPanel.Screen

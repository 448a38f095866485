import Cpplet.Screen.Style

/-!
# Colours of the explorer

One colour for each thing that the explorer shows, and the styles of pane borders.
-/

namespace Cpplet.Explorer.Theme

open Screen (Color Style)

/-- Ordinary text. -/
def text : Color := .rgb 205 214 244
/-- Brackets and the view badge. -/
def primary : Color := .rgb 137 180 250
/-- The selected place. -/
def secondary : Color := .rgb 250 179 135
/-- Comments, line numbers and whatever stays in the background. -/
def comment : Color := .rgb 108 112 134
/-- The end of a list. -/
def success : Color := .rgb 166 227 161
/-- Reserved words. -/
def keyword : Color := .rgb 137 180 250
/-- String and character constants. -/
def string : Color := .rgb 166 227 161
/-- Numbers and truth values. -/
def number : Color := .rgb 250 179 135
/-- The border of the pane that takes the keys. -/
def focusedBorder : Color := .rgb 249 226 175
/-- The border of the other pane. -/
def normalBorder : Color := .rgb 108 112 134
/-- Behind the selected line and the status bar. -/
def selectedLine : Color := .rgb 50 50 70
/-- Types. -/
def typeName : Color := .rgb 148 226 213
/-- Include lines. -/
def directive : Color := .rgb 245 194 231

/-- The style of a pane's border. -/
def border (focused : Bool) : Style :=
  if focused then (Style.color focusedBorder).emphasized else Style.color normalBorder

end Cpplet.Explorer.Theme

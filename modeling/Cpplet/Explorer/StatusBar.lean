import Cpplet.Explorer.Theme
import Cpplet.Decimal.Numeral
import Cpplet.Screen.Picture

/-!
# The status bar

The left half of the status bar names the view, counts the selected entry and shows a message;
the right half lists the keys, aligned to the right, with a mark when the last entry is selected.
Both halves are filled with one background.
-/

namespace Cpplet.Explorer.StatusBar

open Screen

/-- The background of the bar. -/
def filler : Cell := ⟨[' '], .behind Theme.selectedLine⟩

/-- The selected entry, counted from one, and how many there are. -/
def counter (view : String) (position : Option Nat) (total : Nat) : String :=
  let shown := match position with
    | some index => Decimal.natText (index + 1)
    | none => "-"
  " " ++ view ++ " " ++ shown ++ "/" ++ Decimal.natText total ++ " "

/-- Text on the background of the bar. -/
def onBar (foreground : Color) (text : String) : Span :=
  ⟨text.toList, .colors foreground Theme.selectedLine⟩

/-- Text on a background of its own. -/
def badge (background : Color) (text : String) : Span := ⟨text.toList, .colors .black background⟩

/-- Text in bold on a background of its own. -/
def boldBadge (background : Color) (text : String) : Span :=
  ⟨text.toList, (Style.colors .black background).emphasized⟩

/-- The left half. -/
def left (message view : String) (position : Option Nat) (total : Nat) : List Span :=
  [boldBadge Theme.primary (counter view position total), onBar Theme.comment " | ",
    onBar Theme.text (" " ++ message ++ " ")]

/-- The keys, each with what it does. -/
def keys : List (String × String) :=
  [(" ↑/↓ ", " move "), (" tab ", " focus "), (" t ", " tree/tokens "), (" q ", " quit ")]

/-- The line between two parts of the right half. -/
def separator : Span := onBar Theme.comment "│"

/-- A key with what it does. -/
def key (entry : String × String) : List Span :=
  [badge Theme.comment entry.1, onBar Theme.text entry.2]

/-- The right half. -/
def right (position : Option Nat) (total : Nat) : List Span :=
  let atEnd := position.any fun index => index + 1 = total
  [separator, onBar Theme.text " "].intercalate (keys.map key) ++
    if atEnd then [separator, boldBadge Theme.success " END "] else []

/-- Cells at the right end of a row, cut to its width. -/
def alignRight (width : Nat) (cells : List Cell) : List Cell :=
  let shown := cells.take width
  List.replicate (width - shown.length) filler ++ shown

/-- How many columns the left half has; an odd column belongs to it. -/
def leftWidth (width : Nat) : Nat := (width + 1) / 2

/-- The row with the text. -/
def textRow (width : Nat) (message view : String) (position : Option Nat) (total : Nat) :
    List Cell :=
  fitRow (leftWidth width) filler (Span.lineCells (left message view position total)) ++
    alignRight (width - leftWidth width) (Span.lineCells (right position total))

/-- Draw the bar. The text is in the first row. -/
def draw (size : Size) (message view : String) (position : Option Nat) (total : Nat) : Picture :=
  fit size filler [textRow size.width message view position total]

end Cpplet.Explorer.StatusBar

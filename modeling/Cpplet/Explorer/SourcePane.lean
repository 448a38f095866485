import Cpplet.Explorer.Highlight
import Cpplet.Location
import Cpplet.Screen.Picture
import Cpplet.Text.Lines
import Cpplet.Decimal.Numeral

/-!
# The source pane

The source pane shows numbered source lines from a scroll offset on. The line of the selected
place has a background, and the character at the place is drawn reversed; where the place lies
behind the end of the line a reversed space is added. While the pane follows the selection it
scrolls as little as possible to keep the selected line in view. It never scrolls further than
needed to show the last line at the bottom.
-/

namespace Cpplet.Explorer

open Screen

/-- How far the source is scrolled. -/
structure Scroll where
  /-- How many lines lie above the pane. -/
  offset : Nat
  /-- Whether the pane follows the selection. -/
  follow : Bool
deriving DecidableEq, Repr

namespace Scroll

/-- The offset nearest to the present one at which a line is in view. -/
def toward (offset view index : Nat) : Nat :=
  if index < offset then index
  else if offset + view ≤ index then index + 1 - view
  else offset

/-- The scroll state with which a number of lines is shown in a view of some height. -/
def settle (scroll : Scroll) (selected : Option Location) (view total : Nat) : Scroll :=
  let offset :=
    match selected with
    | some location =>
      if scroll.follow then toward scroll.offset view (location.line - 1) else scroll.offset
    | none => scroll.offset
  { scroll with offset := min offset (total - view) }

end Scroll

namespace SourcePane

/-- The title of the pane. -/
def title : List Char := " Source Code ".toList

/-- How many lines a pane of some height shows, at least one. -/
def view (height : Nat) : Nat := max (height - 2) 1

/-- A line number, right-aligned to four places and followed by a space. -/
def lineNumber (number : Nat) : List Char :=
  let digits := Decimal.natDigits number
  List.replicate (4 - digits.length) ' ' ++ digits ++ [' ']

/-- The selected line, cut at the selected column. -/
def selectedLine (text : List Char) (column : Nat) : List Span :=
  let base := Style.colors Theme.text Theme.selectedLine
  let index := column - 1
  [⟨text.take index, base⟩,
    ⟨[text[index]?.getD ' '],
      { Style.colors Theme.secondary Theme.selectedLine with bold := true, reversed := true }⟩,
    ⟨text.drop (index + 1), base⟩]

/-- A source line behind its number. -/
def numberedLine (selected : Option Location) (number : Nat) (line : List Char) : List Span :=
  match selected.filter (·.line = number) with
  | some location =>
    ⟨lineNumber number, (Style.color Theme.secondary).emphasized⟩ ::
      selectedLine line location.column
  | none => ⟨lineNumber number, .color Theme.comment⟩ :: Highlight.line line

/-- The lines in view, each as its cells. -/
def visibleRows (lines : List (List Char)) (selected : Option Location) (offset view : Nat) :
    Picture :=
  ((lines.drop offset).take view).mapIdx fun index line =>
    Span.lineCells (numberedLine selected (offset + index + 1) line)

/-- Draw the pane, and settle its scroll state. -/
def draw (size : Size) (source : List Char) (selected : Option Location) (focused : Bool)
    (scroll : Scroll) : Picture × Scroll :=
  let lines := Text.lines source
  let view := view size.height
  let scroll := scroll.settle selected view lines.length
  let rows := visibleRows lines selected scroll.offset view
  (frame size (Theme.border focused) title (fit size.inner .blank rows), scroll)

end SourcePane

end Cpplet.Explorer

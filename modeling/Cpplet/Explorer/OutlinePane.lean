import Cpplet.Explorer.Theme
import Cpplet.Outline.Basic
import Cpplet.Screen.Picture
import Cpplet.Text.Lines

/-!
# The outline pane

The outline pane lists entries, each with the place it points to, and marks the selected one. It
scrolls as little as possible to keep the selected entry in view. A list without entries has no
selection, and a selection behind the last entry moves to it. A pane without inside leaves its
state alone. The lines of a title are written one behind the other.
-/

namespace Cpplet.Explorer

open Screen

/-- One entry of a list. -/
structure Entry where
  /-- What the entry shows. -/
  label : String
  /-- The place it points to. -/
  location : Option Location
deriving DecidableEq, Repr

namespace Entry

/-- The entry of an outline row. -/
def ofRow (row : Outline.Row) : Entry := ⟨row.indented, row.location⟩

/-- The entry of a token. -/
def ofToken (token : Token) : Entry := ⟨token.label, some token.location⟩

/-- The entry as text, its place behind its label. -/
def spans (entry : Entry) : List Span :=
  let label : Span := ⟨entry.label.toList, .color Theme.text⟩
  match entry.location with
  | some location =>
    let place := "  " ++ Decimal.natText location.line ++ ":" ++ Decimal.natText location.column
    [label, ⟨place.toList, .color Theme.comment⟩]
  | none => [label]

end Entry

/-- Which entry of a list is selected and how far the list is scrolled. -/
structure ListState where
  /-- The selected entry, counted from zero. -/
  selected : Option Nat
  /-- How many entries lie above the pane. -/
  offset : Nat
deriving DecidableEq, Repr

namespace ListState

/-- The offset at which the selected entry is in view, within a list that is not empty. It is taken
on trust that ratatui's list widget moves its offset so: no further than the selection asks for,
with every entry in one row. -/
def settledOffset (selected : Option Nat) (offset count height : Nat) : Nat :=
  let offset := min offset (count - 1)
  match selected with
  | some index =>
    if offset + height ≤ index then index + 1 - height
    else if index < offset then index
    else offset
  | none => offset

/-- The state with which a number of entries is shown in a view of some height. -/
def settle (state : ListState) (count height : Nat) : ListState :=
  if count = 0 then ⟨none, 0⟩
  else
    let selected := state.selected.map (min · (count - 1))
    ⟨selected, settledOffset selected state.offset count height⟩

end ListState

namespace OutlinePane

/-- What stands before the selected entry. -/
def pointer : List Cell := "▶ ".toList.map fun c => ⟨[c], .plain⟩

/-- What is laid over the row of the selected entry. -/
def highlight : Style := (Style.behind Theme.selectedLine).emphasized

/-- The row of an entry. Where something is selected every row leaves room for the pointer. -/
def row (width : Nat) (selected : Option Nat) (index : Nat) (entry : Entry) : List Cell :=
  let content := entry.spans.flatMap Span.listCells
  match selected with
  | none => fitRow width .blank content
  | some chosen =>
    if chosen = index then
      (fitRow width .blank (pointer ++ content)).map (Cell.restyle highlight)
    else fitRow width .blank (pointer.map (fun _ => Cell.blank) ++ content)

/-- The rows in view. -/
def visibleRows (entries : List Entry) (state : ListState) (size : Size) : Picture :=
  ((entries.drop state.offset).take size.height).mapIdx fun index entry =>
    row size.width state.selected (state.offset + index) entry

/-- Draw the pane, and settle its state. -/
def draw (size : Size) (title : String) (entries : List Entry) (focused : Bool)
    (state : ListState) : Picture × ListState :=
  let state := if size.inner.isEmpty then state else state.settle entries.length size.inner.height
  let rows := visibleRows entries state size.inner
  let title := (Text.lines (" " ++ title ++ " ").toList).flatten
  (frame size (Theme.border focused) title (fit size.inner .blank rows), state)

end OutlinePane

end Cpplet.Explorer

import Cpplet.Screen.Style

/-!
# Pictures

A picture is its rows of cells, from top to bottom. Panes are pictures of their own and are put
together by placing pictures beside one another and below one another. A frame draws a border
along the edges of its area with a title over the top one, and shows another picture inside; an
area too small for an inside is all border.
-/

namespace Cpplet.Screen

/-- Rows of cells. -/
abbrev Picture := List (List Cell)

/-- How many columns and rows an area has. -/
structure Size where
  /-- Columns. -/
  width : Nat
  /-- Rows. -/
  height : Nat
deriving DecidableEq, Repr

namespace Size

/-- The area without its edges. -/
def inner (size : Size) : Size := ⟨size.width - 2, size.height - 2⟩

/-- Whether the area has no cell. -/
def isEmpty (size : Size) : Bool := size.width = 0 || size.height = 0

end Size

/-- A row cut to a width, or filled up to it. -/
def fitRow (width : Nat) (filler : Cell) (row : List Cell) : List Cell :=
  row.take width ++ List.replicate (width - row.length) filler

/-- A fitted row has the width asked for. -/
@[simp]
theorem length_fitRow (width : Nat) (filler : Cell) (row : List Cell) :
    (fitRow width filler row).length = width := by
  simp only [fitRow, List.length_append, List.length_take, List.length_replicate]
  omega

/-- Rows cut to an area, or filled up to it. -/
def fit (size : Size) (filler : Cell) (rows : Picture) : Picture :=
  let shown := (rows.take size.height).map (fitRow size.width filler)
  shown ++ List.replicate (size.height - shown.length) (List.replicate size.width filler)

/-- A fitted picture has the height asked for. -/
@[simp]
theorem length_fit (size : Size) (filler : Cell) (rows : Picture) :
    (fit size filler rows).length = size.height := by
  simp only [fit, List.length_append, List.length_map, List.length_take, List.length_replicate]
  omega

/-- Two pictures of one height side by side. -/
def beside (left right : Picture) : Picture := List.zipWith (· ++ ·) left right

/-- The character of a border at a column and a row. In an area of one column or one row several
edges fall together; there the corners win over the sides, the left ones over the right ones and
the upper ones over the lower ones. -/
def borderChar (size : Size) (column row : Nat) : Char :=
  if column = 0 ∧ row = 0 then '┌'
  else if column = 0 ∧ row + 1 = size.height then '└'
  else if column + 1 = size.width ∧ row = 0 then '┐'
  else if column + 1 = size.width ∧ row + 1 = size.height then '┘'
  else if row = 0 ∨ row + 1 = size.height then '─'
  else '│'

/-- The cell of a frame's edge. The title stands in the top row from the second column on and
leaves the corners free. -/
def edgeCell (size : Size) (style : Style) (title : List Char) (column row : Nat) : Cell :=
  let shown := title.take (size.width - 2)
  let c :=
    if row = 0 ∧ 0 < column then shown[column - 1]?.getD (borderChar size column row)
    else borderChar size column row
  ⟨[c], style⟩

/-- A picture inside a border with a title. It is taken on trust that ratatui's bordered block draws
so: one cell of border on each side, the title from the second cell of the first row on, and what
is inside cut to the room that is left. -/
def frame (size : Size) (style : Style) (title : List Char) (inside : Picture) : Picture :=
  (List.range size.height).map fun row =>
    (List.range size.width).map fun column =>
      if 0 < column ∧ column + 1 < size.width ∧ 0 < row ∧ row + 1 < size.height then
        (inside[row - 1]?.bind (·[column - 1]?)).getD .blank
      else edgeCell size style title column row

end Cpplet.Screen

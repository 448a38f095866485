import Cpplet.Screen.Picture

/-!
# The cells of pictures

A picture is told by its cells. Fitting a picture keeps the cells inside the area, a frame shows the
cells of its inside one row and one column further, and of two pictures side by side or one below
the other each keeps its own. Where all styles that a picture is drawn with leave the colours as
they are, no cell is reversed (`Upright`).
-/

namespace Cpplet.Screen

/-- The cell of a picture at a row and a column. -/
def cellAt (picture : Picture) (row column : Nat) : Option Cell := picture[row]?.bind (·[column]?)

/-- A row that is fitted keeps its cells and is filled up behind them. -/
theorem getElem?_fitRow {width column : Nat} (inside : column < width) (filler : Cell)
    (row : List Cell) : (fitRow width filler row)[column]? = some (row[column]?.getD filler) := by
  unfold fitRow
  by_cases shown : column < row.length
  · have kept : column < (row.take width).length := by
      rw [List.length_take]
      omega
    rw [List.getElem?_append_left kept, List.getElem?_take_of_lt inside,
      List.getElem?_eq_getElem shown]
    rfl
  · have behind : (row.take width).length ≤ column := by
      rw [List.length_take]
      omega
    have filled : column - (row.take width).length < width - row.length := by
      rw [List.length_take]
      omega
    rw [List.getElem?_append_right behind, List.getElem?_replicate, if_pos filled,
      List.getElem?_eq_none (Nat.le_of_not_lt shown)]
    rfl

/-- A picture that is fitted keeps its cells and is filled up around them. -/
theorem cellAt_fit {size : Size} {row column : Nat} (high : row < size.height)
    (wide : column < size.width) (filler : Cell) (rows : Picture) :
    cellAt (fit size filler rows) row column = some ((cellAt rows row column).getD filler) := by
  unfold fit cellAt
  dsimp only
  by_cases shown : row < rows.length
  · have kept : row < ((rows.take size.height).map (fitRow size.width filler)).length := by
      rw [List.length_map, List.length_take]
      omega
    rw [List.getElem?_append_left kept, List.getElem?_map, List.getElem?_take_of_lt high,
      List.getElem?_eq_getElem shown, Option.map_some, Option.bind_some, getElem?_fitRow wide,
      Option.bind_some]
  · have behind : ((rows.take size.height).map (fitRow size.width filler)).length ≤ row := by
      rw [List.length_map, List.length_take]
      omega
    rw [List.getElem?_append_right behind, List.getElem?_eq_none (Nat.le_of_not_lt shown),
      List.getElem?_replicate, List.length_map, List.length_take, if_pos (by omega),
      Option.bind_some, List.getElem?_replicate, if_pos wide]
    rfl

/-- A frame has the height asked for. -/
@[simp]
theorem length_frame (size : Size) (style : Style) (title : List Char) (inside : Picture) :
    (frame size style title inside).length = size.height := by
  rw [frame, List.length_map, List.length_range]

/-- The rows of a frame have the width asked for. -/
theorem length_of_mem_frame {size : Size} {style : Style} {title : List Char} {inside : Picture} :
    ∀ row ∈ frame size style title inside, row.length = size.width := by
  refine List.forall_mem_map.mpr fun row _ => ?_
  rw [List.length_map, List.length_range]

/-- A frame shows its inside one row and one column further, and its edge around it. -/
theorem cellAt_frame {size : Size} {row column : Nat} (high : row < size.height)
    (wide : column < size.width) (style : Style) (title : List Char) (inside : Picture) :
    cellAt (frame size style title inside) row column =
      some (if 0 < column ∧ column + 1 < size.width ∧ 0 < row ∧ row + 1 < size.height then
        (cellAt inside (row - 1) (column - 1)).getD .blank
      else edgeCell size style title column row) := by
  unfold frame
  rw [cellAt, List.getElem?_map, List.getElem?_range high, Option.map_some, Option.bind_some,
    List.getElem?_map, List.getElem?_range wide, Option.map_some]
  rfl

/-- A frame has no cells outside its area. -/
theorem lt_of_cellAt_frame {size : Size} {style : Style} {title : List Char} {inside : Picture}
    {row column : Nat} {cell : Cell}
    (found : cellAt (frame size style title inside) row column = some cell) :
    row < size.height ∧ column < size.width := by
  obtain ⟨cells, numbered, here⟩ := Option.bind_eq_some_iff.mp found
  have high := (List.getElem?_eq_some_iff.mp numbered).1
  have wide := (List.getElem?_eq_some_iff.mp here).1
  rw [length_frame] at high
  rw [length_of_mem_frame cells (List.mem_of_getElem? numbered)] at wide
  exact ⟨high, wide⟩

/-- Two pictures of one height have it side by side. -/
theorem length_beside {left right : Picture} (even : left.length = right.length) :
    (beside left right).length = left.length := by
  rw [beside, List.length_zipWith, even, Nat.min_self]

/-- Of two pictures side by side the left one keeps its cells. -/
theorem cellAt_beside_left {left right : Picture} {width row column : Nat}
    (even : left.length = right.length) (widths : ∀ cells ∈ left, cells.length = width)
    (inside : column < width) :
    cellAt (beside left right) row column = cellAt left row column := by
  unfold beside cellAt
  rw [List.getElem?_zipWith]
  cases found : left[row]? with
  | none => rfl
  | some cells =>
    have shown : row < right.length := by
      rw [← even]
      exact (List.getElem?_eq_some_iff.mp found).1
    have wide := widths cells (List.mem_of_getElem? found)
    rw [List.getElem?_eq_getElem shown]
    exact List.getElem?_append_left (by omega)

/-- Of two pictures side by side the right one keeps its cells, behind the left one. -/
theorem cellAt_beside_right {left right : Picture} {width row column : Nat}
    (even : left.length = right.length) (widths : ∀ cells ∈ left, cells.length = width)
    (behind : width ≤ column) :
    cellAt (beside left right) row column = cellAt right row (column - width) := by
  unfold beside cellAt
  rw [List.getElem?_zipWith]
  cases found : left[row]? with
  | none =>
    have short : right.length ≤ row := by
      rw [← even]
      exact List.getElem?_eq_none_iff.mp found
    rw [List.getElem?_eq_none short]
    rfl
  | some cells =>
    have shown : row < right.length := by
      rw [← even]
      exact (List.getElem?_eq_some_iff.mp found).1
    have wide := widths cells (List.mem_of_getElem? found)
    rw [List.getElem?_eq_getElem shown, ← wide]
    exact List.getElem?_append_right (by omega)

/-- Of two pictures one below the other the upper one keeps its cells. -/
theorem cellAt_append_left {upper lower : Picture} {row : Nat} (inside : row < upper.length)
    (column : Nat) : cellAt (upper ++ lower) row column = cellAt upper row column := by
  rw [cellAt, List.getElem?_append_left inside]
  rfl

/-- Of two pictures one below the other the lower one keeps its cells, below the upper one. -/
theorem cellAt_append_right {upper lower : Picture} {row : Nat} (below : upper.length ≤ row)
    (column : Nat) :
    cellAt (upper ++ lower) row column = cellAt lower (row - upper.length) column := by
  rw [cellAt, List.getElem?_append_right below]
  rfl

/-! ## Cells that are not reversed -/

/-- Whether no cell of a row is reversed. -/
def Upright (cells : List Cell) : Prop := ∀ cell ∈ cells, cell.style.reversed = false

/-- A picture without reversed cells has none anywhere. -/
theorem upright_of_cellAt {picture : Picture} (upright : ∀ row ∈ picture, Upright row)
    {row column : Nat} {cell : Cell} (found : cellAt picture row column = some cell) :
    cell.style.reversed = false := by
  obtain ⟨cells, numbered, here⟩ := Option.bind_eq_some_iff.mp found
  exact upright cells (List.mem_of_getElem? numbered) cell (List.mem_of_getElem? here)

/-- A fitted row has reversed cells only if the row or the filler is. -/
theorem Upright.fitRow {cells : List Cell} (upright : Upright cells) {filler : Cell}
    (plain : filler.style.reversed = false) (width : Nat) :
    Upright (fitRow width filler cells) := by
  intro cell member
  rcases List.mem_append.mp member with kept | filled
  · exact upright cell (List.mem_of_mem_take kept)
  · rw [List.eq_of_mem_replicate filled]
    exact plain

/-- A fitted picture has reversed cells only if the picture or the filler has. -/
theorem upright_fit {rows : Picture} (upright : ∀ row ∈ rows, Upright row) {filler : Cell}
    (plain : filler.style.reversed = false) (size : Size) :
    ∀ row ∈ fit size filler rows, Upright row := by
  refine List.forall_mem_append.mpr ⟨?_, fun row filled => ?_⟩
  · refine List.forall_mem_map.mpr fun row kept => ?_
    exact (upright row (List.mem_of_mem_take kept)).fitRow plain size.width
  · rw [List.eq_of_mem_replicate filled]
    intro cell member
    rw [List.eq_of_mem_replicate member]
    exact plain

/-- A frame has reversed cells only if its edge or its inside is. -/
theorem upright_frame {inside : Picture} (upright : ∀ row ∈ inside, Upright row) {style : Style}
    (plain : style.reversed = false) (size : Size) (title : List Char) :
    ∀ row ∈ frame size style title inside, Upright row := by
  refine List.forall_mem_map.mpr fun row _ => List.forall_mem_map.mpr fun column _ => ?_
  split
  · cases found : inside[row - 1]?.bind (·[column - 1]?) with
    | none => rfl
    | some cell => exact upright_of_cellAt upright found
  · exact plain

/-- Where a picture without reversed cells has none, a blank is none either. -/
theorem reversed_getD {found : Option Cell}
    (upright : ∀ cell ∈ found, cell.style.reversed = false) :
    (found.getD .blank).style.reversed = false := by
  cases found with
  | none => rfl
  | some cell => exact upright cell rfl

/-- Among cells of which one is reversed, it is the only one, also if blanks follow. -/
theorem reversed_getElem?_iff {front behind : List Cell} {spot : Cell}
    (uprightFront : Upright front) (uprightBehind : Upright behind)
    (reversed : spot.style.reversed = true) (index : Nat) :
    ((front ++ spot :: behind)[index]?.getD .blank).style.reversed = true ↔
      index = front.length := by
  rcases Nat.lt_trichotomy index front.length with before | rfl | after
  · rw [List.getElem?_append_left before,
      reversed_getD fun cell found => uprightFront cell (List.mem_of_getElem? found)]
    have different : index ≠ front.length := Nat.ne_of_lt before
    simp [different]
  · simp [reversed]
  · obtain ⟨rest, rfl⟩ : ∃ rest, index = front.length + 1 + rest :=
      ⟨index - (front.length + 1), by omega⟩
    have later : (front ++ spot :: behind)[front.length + 1 + rest]? = behind[rest]? := by
      rw [List.getElem?_append_right (by omega)]
      have step : front.length + 1 + rest - front.length = rest + 1 := by omega
      rw [step, List.getElem?_cons_succ]
    rw [later, reversed_getD fun cell found => uprightBehind cell (List.mem_of_getElem? found)]
    have different : front.length + 1 + rest ≠ front.length := by omega
    simp [different]

/-- The cells of a span have its style. -/
theorem upright_cells {span : Span} (plain : span.style.reversed = false) : Upright span.cells :=
  List.forall_mem_map.mpr fun _ _ => plain

/-- The cells of spans that are not reversed are not. -/
theorem upright_lineCells {spans : List Span}
    (plain : ∀ span ∈ spans, span.style.reversed = false) :
    Upright (Span.lineCells spans) := by
  intro cell member
  obtain ⟨span, among, found⟩ := List.mem_flatMap.mp member
  exact upright_cells (plain span among) cell found

/-- The cells in a list of spans that are not reversed are not. -/
theorem upright_listCells {spans : List Span}
    (plain : ∀ span ∈ spans, span.style.reversed = false) :
    Upright (spans.flatMap Span.listCells) := by
  intro cell member
  obtain ⟨span, among, found⟩ := List.mem_flatMap.mp member
  rcases List.mem_append.mp found with shown | lost
  · exact upright_cells (plain span among) cell shown
  · rw [List.eq_of_mem_replicate lost]
    rfl

/-! ## Text without line feeds -/

/-- In a text without line feeds each character is a symbol. -/
theorem symbols_inline {text : List Char} (inline : '\n' ∉ text) :
    symbols text = text.map fun c => [c] := by
  induction text with
  | nil => rfl
  | cons c text ih =>
    simp only [List.mem_cons, not_or] at inline
    rw [symbols, ih inline.2, List.map_cons]
    · rintro later - rfl
      exact inline.2 List.mem_cons_self
    · exact Ne.symm inline.1

/-- A span without line feeds has one cell for each character. -/
theorem cells_inline {span : Span} (inline : '\n' ∉ span.text) :
    span.cells = span.text.map fun c => ⟨[c], span.style⟩ := by
  rw [Span.cells, symbols_inline inline, List.map_map]
  rfl

end Cpplet.Screen

import Cpplet.Proofs.Exploring
import Cpplet.Proofs.Pictures
import Cpplet.Proofs.Pointing
import Cpplet.Proofs.Printing

/-!
# The place that the explorer points out

When the explorer is drawn, the source pane shows as much of the source as it can, and as long as it
follows the selection the line of the selected place is in view. One cell of the screen is reversed
then, where the character at the place is drawn, and no other (`source_follows_selection`).
-/

namespace Cpplet

open Screen

/-! ## Where selected places are -/

/-- A token of a chain of gaps and lexemes stands somewhere in the text, before a character that
ends no line or at the end. -/
theorem Scanned.exists_split {place : Location} {text : List Char} {tokens : List Token}
    (scanned : Scanned place text tokens) {token : Token} (member : token ∈ tokens) :
    ∃ before rest, text = before ++ rest ∧ place.past before = token.location ∧
      ∀ c ∈ rest.head?, c ≠ '\n' ∧ c ≠ '\r' := by
  induction scanned with
  | @eof place gap separates =>
    obtain rfl := List.mem_singleton.mp member
    exact ⟨gap, [], (List.append_nil gap).symm, rfl, fun c none => nomatch none⟩
  | @token place gap behind lexeme tokens separates plain filled stands rest ih =>
    rcases List.mem_cons.mp member with rfl | later
    · refine ⟨gap, lexeme.text ++ behind, rfl, rfl, fun c first => ?_⟩
      obtain ⟨others, spelled⟩ := List.head?_eq_some_iff.mp first
      rw [spelled] at plain
      exact Trivia.ne_of_not_opens plain
    · obtain ⟨before, last, rfl, found, solid⟩ := ih later
      refine ⟨gap ++ (lexeme.text ++ before), last, by simp, ?_, solid⟩
      rw [Location.past_append, Location.past_append]
      exact found

/-- What stands at a place, before a character that ends no line or at the end of the text, stands
in the line of the place at its column, if there is such a line. -/
theorem Text.exists_line {before rest : List Char}
    (solid : ∀ c ∈ rest.head?, c ≠ '\n' ∧ c ≠ '\r')
    (numbered : (Location.start.past before).line ≤ (lines (before ++ rest)).length) :
    ∃ number index body, Location.start.past before = ⟨number + 1, index + 1⟩ ∧
      (lines (before ++ rest))[number]? = some body ∧ '\n' ∉ body ∧ index ≤ body.length ∧
      body[index]? = rest.head? := by
  have inside : before.length ≤ (before ++ rest).length := by simp
  obtain ⟨number, earlier, body, ending, later, holds, found, place⟩ :=
    exists_lineAt_from 1 inside
  rw [List.take_left, Nat.add_comm 1] at place
  rw [show Location.start = ⟨1, 1⟩ from rfl, place] at numbered ⊢
  have line : (lines (before ++ rest))[number]? = some body := by
    rw [List.getElem?_eq_getElem (by exact numbered)] at found ⊢
    exact congrArg some found
  refine ⟨number, _, body, rfl, line, holds.inline, ?_⟩
  cases rest with
  | nil =>
    -- At the end of the text nothing ends the line, so the text ends with it.
    have whole := congrArg List.length holds.split
    simp only [List.length_append, List.length_nil, Nat.add_zero] at whole
    obtain rfl : ending = [] := by
      rcases holds.notBehind with inner | last
      · omega
      · exact last
    cases holds.ends
    have length : before.length - earlier.length = body.length := by
      simp only [List.length_nil, Nat.add_zero] at whole
      omega
    rw [length]
    exact ⟨Nat.le_refl _, List.getElem?_eq_none (Nat.le_refl _)⟩
  | cons c rest =>
    obtain ⟨noFeed, noReturn⟩ := solid c rfl
    have here : (before ++ c :: rest)[before.length]? = some c := by simp
    have inner := holds.before_of_getElem? here noFeed noReturn
    rw [holds.getElem?_eq inner, here]
    exact ⟨by omega, rfl⟩

namespace Explorer

/-- The place of the selected entry is that of a token. -/
theorem exists_token_of_selected {source : String} {program : Program} {tokens : List Token}
    (parsed : parse source = .ok program) (listed : tokenize source = .ok tokens)
    {explorer : Explorer} (follows : (new source program tokens).Follows explorer)
    {location : Location} (selected : explorer.selectedLocation = some location) :
    ∃ token ∈ tokens, token.location = location := by
  obtain ⟨index, -, found⟩ := Option.bind_eq_some_iff.mp selected
  obtain ⟨entry, numbered, points⟩ := Option.bind_eq_some_iff.mp found
  have member := List.mem_of_getElem? numbered
  rw [entries_eq, follows.entriesOf] at member
  cases shown : explorer.view with
  | tree =>
    rw [shown] at member
    obtain ⟨row, among, rfl⟩ := List.mem_map.mp member
    have shaped : program.Shaped (Token.At (Location.HoldsToken tokens)) :=
      Program.shaped_of_parse parsed listed (fun _ _ _ good => good) fun token among inner =>
        ⟨token, among, inner, rfl⟩
    obtain ⟨token, held, -, same⟩ := shaped.shows.rowsAt 0 row among location points
    exact ⟨token, held, same⟩
  | tokens =>
    rw [shown] at member
    obtain ⟨token, among, rfl⟩ := List.mem_map.mp member
    exact ⟨token, among, Option.some.inj points⟩

/-! ## Scrolling -/

/-- Drawing does not scroll further than needed to show the last line. -/
theorem offset_settle_le (scroll : Scroll) (selected : Option Location) (view total : Nat) :
    (scroll.settle selected view total).offset ≤ total - view :=
  Nat.min_le_right _ _

/-- A pane that follows the selection shows the selected line, if there is such a line. -/
theorem Scroll.inView {scroll : Scroll} (follows : scroll.follow = true) {location : Location}
    {view total : Nat} (high : 0 < view) (counted : 0 < location.line)
    (numbered : location.line ≤ total) :
    (scroll.settle (some location) view total).offset ≤ location.line - 1 ∧
      location.line - 1 < (scroll.settle (some location) view total).offset + view := by
  have settled : (scroll.settle (some location) view total).offset =
      min (toward scroll.offset view (location.line - 1)) (total - view) := by
    rw [settle]
    dsimp only
    rw [if_pos follows]
  rw [settled]
  unfold toward
  split
  · omega
  · split <;> omega

/-! ## What is not reversed -/

/-- The style of a word leaves the colours as they are. -/
theorem reversed_wordStyle (word : List Char) :
    (Highlight.wordStyle word).reversed = false := by
  unfold Highlight.wordStyle
  split
  · unfold Highlight.keywordStyle
    split
    · rfl
    · split <;> rfl
  · rfl

/-- The pieces of a line leave the colours as they are. -/
theorem reversed_piecesWithin (rounds text : List Char) :
    ∀ span ∈ Highlight.piecesWithin rounds text, span.style.reversed = false := by
  have piece (c : Char) (rest : List Char) :
      (Highlight.piece c rest).style.reversed = false := by
    unfold Highlight.piece
    split
    · rfl
    · split
      · rfl
      · split
        · exact reversed_wordStyle _
        · rfl
  induction rounds generalizing text with
  | nil =>
    rw [Highlight.piecesWithin]
    · exact List.forall_mem_nil _
    · intro _ _ _ _ none
      cases none
  | cons round rounds ih =>
    cases text with
    | nil => exact List.forall_mem_nil _
    | cons c rest => exact List.forall_mem_cons.mpr ⟨piece c rest, ih _⟩

/-- A coloured line leaves the colours as they are. -/
theorem reversed_line (text : List Char) :
    ∀ span ∈ Highlight.line text, span.style.reversed = false := by
  unfold Highlight.line
  split
  · exact List.forall_mem_singleton.mpr rfl
  · exact reversed_piecesWithin text text

/-- The border of a pane leaves the colours as they are. -/
theorem reversed_border (focused : Bool) : (Theme.border focused).reversed = false := by
  unfold Theme.border
  split <;> rfl

/-- No cell of the outline pane is reversed. -/
theorem upright_outline (size : Size) (title : String) (entries : List Entry) (focused : Bool)
    (state : ListState) :
    ∀ row ∈ (OutlinePane.draw size title entries focused state).1, Upright row := by
  have content (entry : Entry) : Upright (entry.spans.flatMap Span.listCells) := by
    apply upright_listCells
    unfold Entry.spans
    split
    · exact List.forall_mem_cons.mpr ⟨rfl, List.forall_mem_singleton.mpr rfl⟩
    · exact List.forall_mem_singleton.mpr rfl
  have row (width : Nat) (selected : Option Nat) (index : Nat) (entry : Entry) :
      Upright (OutlinePane.row width selected index entry) := by
    have pointer : Upright OutlinePane.pointer := List.forall_mem_map.mpr fun _ _ => rfl
    unfold OutlinePane.row
    dsimp only
    split
    · exact (content entry).fitRow rfl width
    · split
      · refine List.forall_mem_map.mpr fun cell member => ?_
        have pointed := List.forall_mem_append.mpr ⟨pointer, content entry⟩
        exact Upright.fitRow pointed rfl width cell member
      · have room : Upright (OutlinePane.pointer.map fun _ => Cell.blank) :=
          List.forall_mem_map.mpr fun _ _ => rfl
        exact Upright.fitRow (List.forall_mem_append.mpr ⟨room, content entry⟩) rfl width
  have rows (state : ListState) :
      ∀ row ∈ OutlinePane.visibleRows entries state size.inner, Upright row := by
    intro cells member
    obtain ⟨index, _, rfl⟩ := List.mem_mapIdx.mp member
    exact row _ _ _ _
  exact upright_frame (upright_fit (rows _) rfl size.inner) (reversed_border focused) size _

/-- The outline pane has the height of its area. -/
theorem length_outlinePane (size : Size) (title : String) (entries : List Entry) (focused : Bool)
    (state : ListState) :
    (OutlinePane.draw size title entries focused state).1.length = size.height :=
  length_frame _ _ _ _

/-- No cell of the status bar is reversed. -/
theorem upright_statusBar (size : Size) (message view : String) (position : Option Nat)
    (total : Nat) : ∀ row ∈ StatusBar.draw size message view position total, Upright row := by
  have left : Upright (Span.lineCells (StatusBar.left message view position total)) := by
    apply upright_lineCells
    simp only [StatusBar.left, List.forall_mem_cons]
    exact ⟨rfl, rfl, rfl, List.forall_mem_nil _⟩
  have right : Upright (Span.lineCells (StatusBar.right position total)) := by
    apply upright_lineCells
    refine List.forall_mem_append.mpr ⟨by decide, ?_⟩
    split
    · exact List.forall_mem_cons.mpr ⟨rfl, List.forall_mem_singleton.mpr rfl⟩
    · exact List.forall_mem_nil _
  have aligned (width : Nat) :
      Upright (StatusBar.alignRight width (Span.lineCells (StatusBar.right position total))) := by
    refine List.forall_mem_append.mpr ⟨fun cell filled => ?_, fun cell member => ?_⟩
    · rw [List.eq_of_mem_replicate filled]
      rfl
    · exact right cell (List.mem_of_mem_take member)
  refine upright_fit (List.forall_mem_singleton.mpr ?_) rfl size
  exact List.forall_mem_append.mpr ⟨left.fitRow rfl _, aligned _⟩

/-! ## The source pane -/

/-- The number of a line holds no line feed. -/
theorem inline_lineNumber (number : Nat) : '\n' ∉ SourcePane.lineNumber number := by
  intro feed
  rcases List.mem_append.mp feed with front | last
  · rcases List.mem_append.mp front with room | digit
    · exact absurd (List.eq_of_mem_replicate room) (by decide)
    · exact absurd (isDigit_of_mem_natDigits digit) (by decide)
  · exact absurd (List.mem_singleton.mp last) (by decide)

/-- Only in the line of the selected place there are reversed cells. -/
theorem upright_numberedLine {selected : Option Location} {number : Nat}
    (other : ∀ location ∈ selected, location.line ≠ number) (line : List Char) :
    Upright (Span.lineCells (SourcePane.numberedLine selected number line)) := by
  have unselected : selected.filter (·.line = number) = none := by
    rw [Option.filter_eq_none_iff]
    intro location member
    simpa using other location member
  unfold SourcePane.numberedLine
  rw [unselected]
  exact upright_lineCells (List.forall_mem_cons.mpr ⟨rfl, reversed_line line⟩)

/-- The style of the character at the selected place. -/
def spotStyle : Style :=
  { Style.colors Theme.secondary Theme.selectedLine with bold := true, reversed := true }

/-- The cells of the line of the selected place: its number, what stands before the place, the
character there or a blank, and what stands behind the place. -/
theorem lineCells_selected (location : Location) {body : List Char} (inline : '\n' ∉ body) :
    Span.lineCells (SourcePane.numberedLine (some location) location.line body) =
      Span.cells ⟨SourcePane.lineNumber location.line, (Style.color Theme.secondary).emphasized⟩ ++
        Span.cells ⟨body.take (location.column - 1), .colors Theme.text Theme.selectedLine⟩ ++
        ⟨[body[location.column - 1]?.getD ' '], spotStyle⟩ ::
        Span.cells
          ⟨body.drop (location.column - 1 + 1), .colors Theme.text Theme.selectedLine⟩ := by
  have selected : (some location).filter (·.line = location.line) = some location := by simp
  have visible : '\n' ∉ [body[location.column - 1]?.getD ' '] := by
    intro feed
    cases found : body[location.column - 1]? with
    | none =>
      rw [found] at feed
      exact absurd feed (by decide)
    | some c =>
      rw [found] at feed
      obtain rfl : '\n' = c := List.mem_singleton.mp feed
      exact inline (List.mem_of_getElem? found)
  have spot := @cells_inline ⟨[body[location.column - 1]?.getD ' '], spotStyle⟩ visible
  unfold SourcePane.numberedLine
  rw [selected]
  simp only [SourcePane.selectedLine, Span.lineCells, List.flatMap_cons, List.flatMap_nil]
  rw [← spotStyle, spot]
  simp

/-- The line of the selected place has one reversed cell, which shows the character there, or a
blank behind the end of the line; it begins with the number of the line. -/
theorem exists_reversed {location : Location} {body : List Char} (inline : '\n' ∉ body)
    (within : location.column - 1 ≤ body.length) :
    ∃ front behind,
      Span.lineCells (SourcePane.numberedLine (some location) location.line body) =
        front ++ ⟨[body[location.column - 1]?.getD ' '], spotStyle⟩ :: behind ∧
      front.length = (SourcePane.lineNumber location.line).length + (location.column - 1) ∧
      Upright front ∧ Upright behind ∧
      ∀ (column : Nat) (c : Char), (SourcePane.lineNumber location.line)[column]? = some c →
        ∃ cell, front[column]? = some cell ∧ cell.symbol = [c] := by
  have number := @cells_inline
    ⟨SourcePane.lineNumber location.line, (Style.color Theme.secondary).emphasized⟩
    (inline_lineNumber location.line)
  have before := @cells_inline
    ⟨body.take (location.column - 1), .colors Theme.text Theme.selectedLine⟩
    fun feed => inline (List.mem_of_mem_take feed)
  refine ⟨_, _, lineCells_selected location inline, ?_, ?_, upright_cells rfl, ?_⟩
  · rw [number, before, List.length_append, List.length_map, List.length_map, List.length_take,
      Nat.min_eq_left within]
  · exact List.forall_mem_append.mpr ⟨upright_cells rfl, upright_cells rfl⟩
  · intro column c digit
    have shown : column < (SourcePane.lineNumber location.line).length :=
      (List.getElem?_eq_some_iff.mp digit).1
    rw [number, List.getElem?_append_left (by rwa [List.length_map]), List.getElem?_map, digit]
    exact ⟨_, rfl, rfl⟩

/-- The rows in view show the lines from the offset on, each behind its number. -/
theorem cellAt_visibleRows (lines : List (List Char)) (selected : Option Location)
    {offset view row : Nat} (shown : row < view) (column : Nat) :
    cellAt (SourcePane.visibleRows lines selected offset view) row column =
      lines[offset + row]?.bind fun line =>
        (Span.lineCells (SourcePane.numberedLine selected (offset + row + 1) line))[column]? := by
  unfold SourcePane.visibleRows
  rw [cellAt, List.getElem?_mapIdx, List.getElem?_take_of_lt shown, List.getElem?_drop]
  cases lines[offset + row]? <;> rfl

/-- The source pane shows the rows in view inside its border. -/
theorem cellAt_sourcePane {size : Size} (source : List Char) (selected : Option Location)
    (focused : Bool) (scroll : Scroll) {row column : Nat} (high : row + 2 < size.height)
    (wide : column + 2 < size.width) :
    cellAt (SourcePane.draw size source selected focused scroll).1 (row + 1) (column + 1) =
      some ((cellAt (SourcePane.visibleRows (Text.lines source) selected
        (SourcePane.draw size source selected focused scroll).2.offset
        (SourcePane.view size.height)) row column).getD .blank) := by
  have inner : row < size.inner.height ∧ column < size.inner.width := by
    simp only [Size.inner]
    omega
  unfold SourcePane.draw
  dsimp only
  rw [cellAt_frame (by omega) (by omega), if_pos (by omega), Nat.add_sub_cancel,
    Nat.add_sub_cancel, cellAt_fit inner.1 inner.2]
  rfl

section Spot

variable {source body : List Char} {number index : Nat}
  (numbered : (Text.lines source)[number]? = some body) (inline : '\n' ∉ body)
  (within : index ≤ body.length)

include numbered inline within

/-- Of the rows in view only that of the selected line has a reversed cell, and only one. -/
theorem reversed_visibleRows_iff {offset view row : Nat} (shown : row < view) (column : Nat) :
    ((cellAt (SourcePane.visibleRows (Text.lines source) (some ⟨number + 1, index + 1⟩) offset view)
        row column).getD .blank).style.reversed = true ↔
      offset + row = number ∧ column = (SourcePane.lineNumber (number + 1)).length + index := by
  rw [cellAt_visibleRows _ _ shown]
  by_cases same : offset + row = number
  · obtain ⟨front, behind, cells, length, uprightFront, uprightBehind, -⟩ :=
      @exists_reversed ⟨number + 1, index + 1⟩ body inline within
    rw [same, numbered, Option.bind_some, cells,
      reversed_getElem?_iff uprightFront uprightBehind rfl, length]
    exact (and_iff_right rfl).symm
  · have other : ∀ location ∈ some (Location.mk (number + 1) (index + 1)),
        location.line ≠ offset + row + 1 := by
      intro location chosen equal
      rw [← Option.some.inj chosen] at equal
      exact same (Nat.succ.inj equal).symm
    have plain := fun line => upright_numberedLine other line
    rw [reversed_getD]
    · simp [same]
    · intro cell found
      obtain ⟨line, -, here⟩ := Option.bind_eq_some_iff.mp found
      exact plain line cell (List.mem_of_getElem? here)

/-- The row of the selected line shows the character at the selected place, or a blank at its end,
and begins with the number of the line. -/
theorem cells_visibleRow {offset view row : Nat} (shown : row < view)
    (here : offset + row = number) :
    cellAt (SourcePane.visibleRows (Text.lines source) (some ⟨number + 1, index + 1⟩) offset view)
        row ((SourcePane.lineNumber (number + 1)).length + index) =
      some ⟨[body[index]?.getD ' '], spotStyle⟩ ∧
    ∀ (column : Nat) (c : Char), (SourcePane.lineNumber (number + 1))[column]? = some c →
      ∃ cell, cellAt (SourcePane.visibleRows (Text.lines source) (some ⟨number + 1, index + 1⟩)
        offset view) row column = some cell ∧ cell.symbol = [c] := by
  obtain ⟨front, behind, cells, length, -, -, begins⟩ :=
    @exists_reversed ⟨number + 1, index + 1⟩ body inline within
  have row (column : Nat) : cellAt (SourcePane.visibleRows (Text.lines source)
      (some ⟨number + 1, index + 1⟩) offset view) row column =
      (front ++ ⟨[body[index]?.getD ' '], spotStyle⟩ :: behind)[column]? := by
    rw [cellAt_visibleRows _ _ shown, here, numbered, Option.bind_some, cells]
    rfl
  constructor
  · have place : (SourcePane.lineNumber (number + 1)).length + index = front.length := length.symm
    rw [row, place]
    simp
  · intro column c digit
    obtain ⟨cell, found, symbol⟩ := begins column c digit
    rw [row, List.getElem?_append_left (List.getElem?_eq_some_iff.mp found).1]
    exact ⟨cell, found, symbol⟩

/-- The source pane has one reversed cell, in the row of the selected line, if that row and that
cell are inside. -/
theorem reversed_sourcePane_iff {size : Size} {focused : Bool} {scroll : Scroll} {offset : Nat}
    (settled : (SourcePane.draw size source (some ⟨number + 1, index + 1⟩) focused
      scroll).2.offset = offset) (low : offset ≤ number) (high : number + 2 < offset + size.height)
    (fits : (SourcePane.lineNumber (number + 1)).length + index + 2 < size.width)
    {row column : Nat} {cell : Cell}
    (found : cellAt (SourcePane.draw size source (some ⟨number + 1, index + 1⟩) focused scroll).1
      row column = some cell) :
    cell.style.reversed = true ↔
      row = number + 1 - offset ∧
        column = (SourcePane.lineNumber (number + 1)).length + (index + 1) := by
  obtain ⟨tall, wide⟩ := lt_of_cellAt_frame found
  by_cases inside : 0 < column ∧ column + 1 < size.width ∧ 0 < row ∧ row + 1 < size.height
  · obtain ⟨innerRow, rfl⟩ : ∃ inner, row = inner + 1 := ⟨row - 1, by omega⟩
    obtain ⟨innerColumn, rfl⟩ : ∃ inner, column = inner + 1 := ⟨column - 1, by omega⟩
    have shown : innerRow < SourcePane.view size.height := by
      unfold SourcePane.view
      omega
    rw [cellAt_sourcePane source _ focused scroll (by omega) (by omega), settled] at found
    rw [← Option.some.inj found, reversed_visibleRows_iff numbered inline within shown]
    omega
  · have edge : cell.style = Theme.border focused := by
      unfold SourcePane.draw at found
      dsimp only at found
      rw [cellAt_frame tall wide, if_neg inside] at found
      rw [← Option.some.inj found]
      rfl
    rw [edge, reversed_border]
    constructor
    · intro reversed
      cases reversed
    · intro place
      omega

/-- The cells of the selected line in the source pane. -/
theorem cells_sourcePane {size : Size} {focused : Bool} {scroll : Scroll} {offset : Nat}
    (settled : (SourcePane.draw size source (some ⟨number + 1, index + 1⟩) focused
      scroll).2.offset = offset) (low : offset ≤ number) (high : number + 2 < offset + size.height)
    (fits : (SourcePane.lineNumber (number + 1)).length + index + 2 < size.width) :
    cellAt (SourcePane.draw size source (some ⟨number + 1, index + 1⟩) focused scroll).1
        (number + 1 - offset) ((SourcePane.lineNumber (number + 1)).length + (index + 1)) =
      some ⟨[body[index]?.getD ' '], spotStyle⟩ ∧
    ∀ (column : Nat) (c : Char), (SourcePane.lineNumber (number + 1))[column]? = some c →
      ∃ cell, cellAt (SourcePane.draw size source (some ⟨number + 1, index + 1⟩) focused scroll).1
        (number + 1 - offset) (column + 1) = some cell ∧ cell.symbol = [c] := by
  have row : number + 1 - offset = number - offset + 1 := by omega
  have shown : number - offset < SourcePane.view size.height := by
    unfold SourcePane.view
    omega
  obtain ⟨spot, digits⟩ := cells_visibleRow numbered inline within shown
    (show offset + (number - offset) = number by omega)
  rw [row]
  constructor
  · rw [← Nat.add_assoc, cellAt_sourcePane source _ focused scroll (by omega) (by omega), settled,
      spot]
    rfl
  · intro column c digit
    have few := (List.getElem?_eq_some_iff.mp digit).1
    obtain ⟨cell, found, symbol⟩ := digits column c digit
    refine ⟨cell, ?_, symbol⟩
    rw [cellAt_sourcePane source _ focused scroll (by omega) (by omega), settled, found]
    rfl

end Spot

/-! ## The screen -/

variable (explorer : Explorer)

/-- The source pane as the explorer draws it. -/
def sourcePane (size : Size) : Picture × Scroll :=
  SourcePane.draw (sourceArea size) explorer.source explorer.selectedLocation
    (explorer.focus = .source) explorer.scroll

/-- The source pane has the height of its area, and its rows have the width. -/
theorem length_sourcePane (size : Size) :
    (explorer.sourcePane size).1.length = (sourceArea size).height ∧
      ∀ row ∈ (explorer.sourcePane size).1, row.length = (sourceArea size).width :=
  ⟨length_frame _ _ _ _, length_of_mem_frame⟩

/-- The screen shows the source pane, beside it a pane of the same height and below both a bar, in
which no cells are reversed. -/
theorem exists_screen_eq (size : Size) :
    ∃ outline bar, (explorer.draw size).1 = beside (explorer.sourcePane size).1 outline ++ bar ∧
      (explorer.sourcePane size).1.length = outline.length ∧
      (∀ row ∈ outline, Upright row) ∧ ∀ row ∈ bar, Upright row := by
  refine ⟨_, _, rfl, ?_, upright_outline _ _ _ _ _, upright_statusBar _ _ _ _ _⟩
  rw [(explorer.length_sourcePane size).1]
  exact (length_outlinePane (outlineArea size) _ _ _ _).symm

/-- The screen shows the source pane at its left. -/
theorem cellAt_draw {size : Size} {row column : Nat} (high : row < (sourceArea size).height)
    (wide : column < (sourceArea size).width) :
    cellAt (explorer.draw size).1 row column = cellAt (explorer.sourcePane size).1 row column := by
  obtain ⟨outline, bar, screen, even, -, -⟩ := explorer.exists_screen_eq size
  obtain ⟨height, widths⟩ := explorer.length_sourcePane size
  have above : row < (beside (explorer.sourcePane size).1 outline).length := by
    rw [length_beside even, height]
    exact high
  rw [screen, cellAt_append_left above, cellAt_beside_left even widths wide]

/-- Only in the source pane there are reversed cells. -/
theorem cellAt_of_reversed {size : Size} {row column : Nat} {cell : Cell}
    (found : cellAt (explorer.draw size).1 row column = some cell)
    (reversed : cell.style.reversed = true) :
    cellAt (explorer.sourcePane size).1 row column = some cell := by
  obtain ⟨outline, bar, screen, even, uprightOutline, uprightBar⟩ := explorer.exists_screen_eq size
  obtain ⟨-, widths⟩ := explorer.length_sourcePane size
  rw [screen] at found
  by_cases above : row < (beside (explorer.sourcePane size).1 outline).length
  · rw [cellAt_append_left above] at found
    by_cases left : column < (sourceArea size).width
    · rwa [cellAt_beside_left even widths left] at found
    · rw [cellAt_beside_right even widths (Nat.le_of_not_lt left)] at found
      rw [upright_of_cellAt uprightOutline found] at reversed
      cases reversed
  · rw [cellAt_append_right (Nat.le_of_not_lt above)] at found
    rw [upright_of_cellAt uprightBar found] at reversed
    cases reversed

/-- Drawing settles the scrolling as the source pane does, and selects the same place. -/
theorem scroll_draw (size : Size) :
    (explorer.draw size).2.scroll = (explorer.sourcePane size).2 := rfl

variable {explorer} in
/-- Drawing keeps the selected place, if there is a selected entry. -/
theorem Selects.selectedLocation_draw (selects : explorer.Selects) (size : Size) :
    (explorer.draw size).2.selectedLocation = explorer.selectedLocation := by
  obtain ⟨index, selected, bound⟩ := selects.shown
  obtain ⟨scroll, status, same⟩ := explorer.exists_draw_eq size
  rw [same, selectedLocation, listState_scrolled, entries_scrolled, selected_shown selected bound,
    selectedLocation, selected]

variable {explorer} in
/-- If the row of the selected line and the cell of the selected place are inside the source pane,
then the screen shows there the number of the line and the character at the place, or a blank at the
end of the line, and no other cell of the screen is reversed. -/
theorem spot_on_screen {size : Size} {offset number index : Nat} {body : List Char}
    (numbered : (Text.lines explorer.source)[number]? = some body) (inline : '\n' ∉ body)
    (within : index ≤ body.length)
    (selected : explorer.selectedLocation = some ⟨number + 1, index + 1⟩)
    (settled : (explorer.draw size).2.scroll.offset = offset) (low : offset ≤ number)
    (high : number + 2 < offset + (sourceArea size).height)
    (fits : (SourcePane.lineNumber (number + 1)).length + index + 2 < (sourceArea size).width) :
    cellAt (explorer.draw size).1 (number + 1 - offset)
        ((SourcePane.lineNumber (number + 1)).length + (index + 1)) =
      some ⟨[body[index]?.getD ' '], spotStyle⟩ ∧
    (∀ (column : Nat) (c : Char), (SourcePane.lineNumber (number + 1))[column]? = some c →
      ∃ cell, cellAt (explorer.draw size).1 (number + 1 - offset) (column + 1) = some cell ∧
        cell.symbol = [c]) ∧
    ∀ (row column : Nat) (cell : Cell), cellAt (explorer.draw size).1 row column = some cell →
      (cell.style.reversed = true ↔ row = number + 1 - offset ∧
        column = (SourcePane.lineNumber (number + 1)).length + (index + 1)) := by
  have pane : explorer.sourcePane size = SourcePane.draw (sourceArea size) explorer.source
      (some ⟨number + 1, index + 1⟩) (explorer.focus = .source) explorer.scroll := by
    rw [sourcePane, selected]
  rw [scroll_draw, pane] at settled
  have onScreen {column : Nat} (narrow : column < (sourceArea size).width) :
      cellAt (explorer.draw size).1 (number + 1 - offset) column = _ :=
    explorer.cellAt_draw (by omega) narrow
  obtain ⟨spot, digits⟩ := cells_sourcePane numbered inline within settled low high fits
  rw [← pane] at spot digits
  refine ⟨?_, fun column c digit => ?_, fun row column cell found => ?_⟩
  · rw [onScreen (by omega)]
    exact spot
  · have few := (List.getElem?_eq_some_iff.mp digit).1
    rw [onScreen (by omega)]
    exact digits column c digit
  · constructor
    · intro reversed
      have inPane := explorer.cellAt_of_reversed found reversed
      rw [pane] at inPane
      have place := reversed_sourcePane_iff numbered inline within settled low high fits inPane
      exact place.mp reversed
    · rintro ⟨rfl, rfl⟩
      rw [onScreen (by omega), spot] at found
      rw [← Option.some.inj found]
      rfl

/-- The explorer follows the selection. Whatever has happened to it, when it is drawn the source is
scrolled no further than needed to show the last line; and while it follows the selection, the line
of the selected place is in view, if there is such a line. If there is room for the character at the
place too, then of all cells of the screen just the one that shows this character is reversed, or a
blank at the end of the source; and its row begins with the number of the line. -/
theorem source_follows_selection {source : String} {program : Program}
    (parsed : parse source = .ok program) :
    ∃ start, ofSource source = .ok start ∧ ∀ (actions : List Action) (size : Size)
      (final : Explorer) (screen : Picture), (start.run actions).draw size = (screen, final) →
      final.scroll.offset ≤ (Text.lines source.toList).length - max 1 (size.height - 3) ∧
      ∀ location, final.selectedLocation = some location → final.scroll.follow = true →
        location.line ≤ (Text.lines source.toList).length →
        (final.scroll.offset ≤ location.line - 1 ∧
          location.line - 1 < final.scroll.offset + max 1 (size.height - 3)) ∧
        ((sourceArea size).inner.isEmpty = false →
          (SourcePane.lineNumber location.line).length + (location.column - 1) <
            (sourceArea size).inner.width →
          ∃ before rest spot, source.toList = before ++ rest ∧
            Location.start.past before = location ∧
            cellAt screen (location.line - final.scroll.offset)
              ((SourcePane.lineNumber location.line).length + location.column) = some spot ∧
            spot.symbol = [rest.head?.getD ' '] ∧
            (∀ (column : Nat) (c : Char),
              (SourcePane.lineNumber location.line)[column]? = some c →
              ∃ cell, cellAt screen (location.line - final.scroll.offset) (column + 1) = some cell ∧
                cell.symbol = [c]) ∧
            ∀ row column cell, cellAt screen row column = some cell →
              (cell.style.reversed = true ↔ row = location.line - final.scroll.offset ∧
                column = (SourcePane.lineNumber location.line).length + location.column)) := by
  obtain ⟨tokens, listed, opened⟩ := ofSource_of_parse parsed
  refine ⟨_, opened, fun actions size final screen drawn => ?_⟩
  generalize reached : (new source program tokens).run actions = explorer at drawn
  have follows : (new source program tokens).Follows explorer := reached ▸ follows_run _ actions
  have selects : explorer.Selects := reached ▸
    run_induction (fun _ selects action => selects.act action) (selects_new listed program) actions
  obtain rfl : (explorer.draw size).1 = screen := congrArg Prod.fst drawn
  obtain rfl : (explorer.draw size).2 = final := congrArg Prod.snd drawn
  -- Drawing moves no selection, so the scrolling that it settles tells everything about the screen.
  have sameSource : explorer.source = source.toList := follows.source
  have view : SourcePane.view (size.height - 1) = max 1 (size.height - 3) := by
    unfold SourcePane.view
    omega
  have settled : (explorer.draw size).2.scroll = explorer.scroll.settle explorer.selectedLocation
      (max 1 (size.height - 3)) (Text.lines source.toList).length := by
    rw [← view, ← sameSource]
    rfl
  rw [selects.selectedLocation_draw, settled]
  refine ⟨offset_settle_le _ _ _ _, fun location selected follow numbered => ?_⟩
  -- The place is that of a token, so what stands there ends no line and is inside one.
  obtain ⟨token, member, rfl⟩ := exists_token_of_selected parsed listed follows selected
  obtain ⟨before, rest, split, place, solid⟩ :=
    (tokenize_eq_ok_iff.mp listed).exists_split member
  rw [split, ← place] at numbered
  obtain ⟨number, index, body, here, line, inline, within, shown⟩ := Text.exists_line solid numbered
  have above : number < (Text.lines source.toList).length := by
    rw [split]
    exact (List.getElem?_eq_some_iff.mp line).1
  rw [← place, here] at selected ⊢
  rw [selected] at settled ⊢
  have inView := @Scroll.inView explorer.scroll follow ⟨number + 1, index + 1⟩
    (max 1 (size.height - 3)) (Text.lines source.toList).length (by omega) (Nat.succ_pos number)
    above
  refine ⟨inView, fun inside fits => ?_⟩
  generalize settledOffset : (explorer.scroll.settle (some ⟨number + 1, index + 1⟩)
    (max 1 (size.height - 3)) (Text.lines source.toList).length).offset = offset at inView ⊢
  rw [← settled] at settledOffset
  have room : size.height - 1 - 2 ≠ 0 :=
    of_decide_eq_false (Bool.or_eq_false_iff.mp inside).2
  simp only [Size.inner, Nat.add_sub_cancel] at inView fits ⊢
  have high : number + 2 < offset + (sourceArea size).height := by
    simp only [sourceArea]
    omega
  rw [← split, ← sameSource] at line
  obtain ⟨spot, digits, alone⟩ :=
    spot_on_screen line inline within selected settledOffset inView.1 high (by omega)
  rw [shown] at spot
  exact ⟨before, rest, _, split, here, spot, rfl, digits, alone⟩

/-- With the last entry of the tree selected, the second line is in the only row of the source pane,
and where the second `2` of the source is drawn is the only reversed cell. -/
theorem source_follows_selection_second :
    ∃ start, ofSource "int x=1;\nint y=2;" = .ok start ∧
      ∃ screen final, (start.run [.press .finish]).draw ⟨60, 4⟩ = (screen, final) ∧
        final.selectedLocation = some ⟨2, 7⟩ ∧ final.scroll.offset = 1 ∧
        ∃ spot, cellAt screen 1 12 = some spot ∧
          ∀ row column cell, cellAt screen row column = some cell →
            (cell.style.reversed = true ↔ row = 1 ∧ column = 12) := by
  obtain ⟨program, tokens, parsed, listed, screen, final, drawn, selected, follow, offset⟩ :
      ∃ program tokens, parse "int x=1;\nint y=2;" = .ok program ∧
        tokenize "int x=1;\nint y=2;" = .ok tokens ∧
        ∃ screen final, ((new "int x=1;\nint y=2;" program tokens).run
            [.press .finish]).draw ⟨60, 4⟩ = (screen, final) ∧
          final.selectedLocation = some ⟨2, 7⟩ ∧ final.scroll.follow = true ∧
          final.scroll.offset = 1 :=
    ⟨_, _, by cbv, by cbv, _, _, (Prod.eta _).symm, by decide, by decide, by decide⟩
  obtain ⟨start, opened, follows⟩ := source_follows_selection parsed
  obtain rfl : new "int x=1;\nint y=2;" program tokens = start := by
    rw [ofSource, parsed, listed] at opened
    exact Except.ok.inj opened
  obtain ⟨-, spotlight⟩ := follows [.press .finish] ⟨60, 4⟩ final screen drawn
  obtain ⟨-, shown⟩ := spotlight ⟨2, 7⟩ selected follow (by decide)
  obtain ⟨before, rest, spot, -, -, here, -, -, alone⟩ := shown (by decide) (by decide)
  rw [offset] at here alone
  exact ⟨_, opened, screen, final, drawn, selected, offset, spot, here, alone⟩

end Explorer

end Cpplet

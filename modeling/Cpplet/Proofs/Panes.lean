import Cpplet.Proofs.Spotlight

/-!
# The source pane shows the source

Colouring cuts a line into pieces and the selection cuts it into three, but both only divide what
is there: put together again, the pieces are the line (`flatMap_text_line`), and so are the three
parts, with a blank behind the line where the selected column is there. So the characters of the
source pane are those of the numbered source lines from the scroll offset on, cut to the width and
filled up with blanks, whatever is selected and whichever pane has the focus.
-/

namespace Cpplet

open Screen

namespace Screen

/-- The symbols of the cells of spans without line feeds are the characters of the spans. -/
theorem symbols_lineCells {spans : List Span} (inline : '\n' ∉ spans.flatMap Span.text) :
    (Span.lineCells spans).map Cell.symbol = (spans.flatMap Span.text).map fun c => [c] := by
  induction spans with
  | nil => rfl
  | cons span spans ih =>
    rw [List.flatMap_cons, List.mem_append, not_or] at inline
    have others := ih inline.2
    unfold Span.lineCells at others ⊢
    rw [List.flatMap_cons, List.flatMap_cons, List.map_append, List.map_append, others,
      cells_inline inline.1, List.map_map]
    rfl

/-- A blank behind a text is not told from the blanks that fill up its row. -/
theorem getElem?_getD_blank {text filler : List Char} (blank : filler = [] ∨ filler = [' '])
    (column : Nat) : (text ++ filler)[column]?.getD ' ' = text[column]?.getD ' ' := by
  by_cases inside : column < text.length
  · rw [List.getElem?_append_left inside]
  · have behind : text.length ≤ column := Nat.le_of_not_lt inside
    rw [List.getElem?_append_right behind, List.getElem?_eq_none behind]
    rcases blank with rfl | rfl
    · rfl
    · cases column - text.length <;> rfl

/-- Cells that show a text, and possibly a blank behind it, show the text. -/
theorem symbol_getElem? {cells : List Cell} {text filler : List Char}
    (blank : filler = [] ∨ filler = [' '])
    (symbols : cells.map Cell.symbol = (text ++ filler).map fun c => [c]) (column : Nat) :
    (cells[column]?.getD .blank).symbol = [text[column]?.getD ' '] := by
  have here : cells[column]?.map Cell.symbol = (text ++ filler)[column]?.map fun c => [c] := by
    rw [← List.getElem?_map, symbols, List.getElem?_map]
  rw [← getElem?_getD_blank blank]
  cases shown : cells[column]? with
  | none =>
    rw [shown] at here
    rw [Option.map_eq_none_iff.mp here.symm]
    rfl
  | some cell =>
    rw [shown] at here
    obtain ⟨c, found, same⟩ := Option.map_eq_some_iff.mp here.symm
    rw [found]
    exact same.symm

end Screen

namespace Explorer

/-! ## Colouring divides a line -/

namespace Highlight

/-- A quotation begins what stands behind its opening quote. -/
theorem quotation_prefix (quote : Char) (rest : List Char) : quotation quote rest <+: rest := by
  fun_induction quotation quote rest with
  | case1 c rest ih => exact (List.prefix_append_right_inj ['\\', c]).mpr ih
  | case2 rest other => exact List.prefix_append [quote] rest
  | case3 c rest other goesOn ih => exact (List.prefix_append_right_inj [c]).mpr ih
  | case4 => exact List.prefix_rfl

/-- A piece begins the line that it is taken from, with the first character. -/
theorem piece_prefix (c : Char) (rest : List Char) :
    ∃ more, (piece c rest).text = c :: more ∧ more <+: rest := by
  unfold piece
  split
  · exact ⟨rest, rfl, List.prefix_rfl⟩
  · split
    · exact ⟨quotation c rest, rfl, quotation_prefix c rest⟩
    · split
      · exact ⟨rest.takeWhile continuesPiece, rfl, List.takeWhile_prefix _⟩
      · exact ⟨[], rfl, List.nil_prefix⟩

/-- The pieces of a line, put together, are the line, if there are enough of them. -/
theorem flatMap_text_piecesWithin {rounds text : List Char}
    (enough : text.length ≤ rounds.length) :
    (piecesWithin rounds text).flatMap Span.text = text := by
  induction rounds generalizing text with
  | nil =>
    obtain rfl : text = [] := List.length_eq_zero_iff.mp (Nat.le_zero.mp enough)
    rfl
  | cons round rounds ih =>
    cases text with
    | nil => rfl
    | cons c rest =>
      obtain ⟨more, taken, behind, split⟩ := piece_prefix c rest
      have left : (c :: rest).drop (c :: more).length = behind := by
        rw [← split, ← List.cons_append, List.drop_left]
      have fewer : behind.length ≤ rounds.length := by
        have whole := congrArg List.length split
        rw [List.length_append] at whole
        simp only [List.length_cons] at enough
        omega
      rw [piecesWithin]
      simp only [taken]
      rw [left, List.flatMap_cons, taken, ih fewer, List.cons_append, split]

/-- The coloured spans of a line, put together, are the line. -/
theorem flatMap_text_line (text : List Char) : (line text).flatMap Span.text = text := by
  unfold line
  split
  · exact List.append_nil text
  · exact flatMap_text_piecesWithin (Nat.le_refl _)

end Highlight

/-! ## So does the selection -/

namespace SourcePane

/-- The three parts of the selected line, put together, are the line, with a blank behind it if the
selected column is there. -/
theorem flatMap_text_selectedLine (text : List Char) (column : Nat) :
    (selectedLine text column).flatMap Span.text = text ∨
      (selectedLine text column).flatMap Span.text = text ++ [' '] := by
  have parts : (selectedLine text column).flatMap Span.text =
      text.take (column - 1) ++ text[column - 1]?.getD ' ' :: text.drop (column - 1 + 1) := by
    simp [selectedLine]
  rw [parts]
  by_cases inside : column - 1 < text.length
  · left
    rw [List.getElem?_eq_getElem inside, Option.getD_some, ← List.drop_eq_getElem_cons inside,
      List.take_append_drop]
  · right
    rw [List.getElem?_eq_none (by omega), List.take_of_length_le (by omega),
      List.drop_eq_nil_of_le (by omega)]
    rfl

/-- A numbered line shows the number and the line, and at most a blank behind it. -/
theorem flatMap_text_numberedLine (selected : Option Location) (number : Nat) (line : List Char) :
    ∃ filler, (filler = [] ∨ filler = [' ']) ∧
      (numberedLine selected number line).flatMap Span.text =
        lineNumber number ++ line ++ filler := by
  unfold numberedLine
  split
  · rename_i location _
    rw [List.flatMap_cons]
    rcases flatMap_text_selectedLine line location.column with whole | behind
    · exact ⟨[], .inl rfl, by rw [whole, List.append_nil]⟩
    · exact ⟨[' '], .inr rfl, by rw [behind, List.append_assoc]⟩
  · rw [List.flatMap_cons, Highlight.flatMap_text_line]
    exact ⟨[], .inl rfl, (List.append_nil _).symm⟩

/-- The characters of a row of the pane: the line with this index behind its number, which is
aligned to the right in four places and followed by a space, or nothing if there is no such line. -/
def rowText (lines : List (List Char)) (index : Nat) : List Char :=
  match lines[index]? with
  | some line => (Decimal.natDigits (index + 1)).leftpad 4 ' ' ++ ' ' :: line
  | none => []

/-- In a row in view each cell shows a character of the row, and a blank where there is none. -/
theorem symbol_visibleRows (source : List Char) (selected : Option Location)
    {offset view row : Nat} (shown : row < view) (column : Nat) :
    ((cellAt (visibleRows (Text.lines source) selected offset view) row column).getD
        .blank).symbol =
      [(rowText (Text.lines source) (offset + row))[column]?.getD ' '] := by
  rw [cellAt_visibleRows _ _ shown, rowText]
  cases numbered : (Text.lines source)[offset + row]? with
  | none => rfl
  | some line =>
    have inline : '\n' ∉ line := Text.inline_of_mem_lines (List.mem_of_getElem? numbered)
    obtain ⟨filler, blank, together⟩ := flatMap_text_numberedLine selected (offset + row + 1) line
    have visible : '\n' ∉ (numberedLine selected (offset + row + 1) line).flatMap Span.text := by
      have noNumber := inline_lineNumber (offset + row + 1)
      rw [together]
      rcases blank with rfl | rfl
      · simp [noNumber, inline]
      · simp [noNumber, inline]
    have symbols := symbols_lineCells visible
    rw [together] at symbols
    have number : (Decimal.natDigits (offset + row + 1)).leftpad 4 ' ' ++ ' ' :: line =
        lineNumber (offset + row + 1) ++ line := by
      simp [lineNumber, List.leftpad]
    rw [Option.bind_some]
    simp only [number]
    exact symbol_getElem? blank symbols column

/-- The symbol of a cell of the pane: the character of its row inside, and a part of the border or
of the title at the edge, whatever is selected and whether or not the pane has the focus. -/
theorem symbol_draw {size : Size} {row column : Nat} (high : row < size.height)
    (wide : column < size.width) (source : List Char) (selected : Option Location)
    (focused : Bool) (scroll : Scroll) :
    (cellAt (draw size source selected focused scroll).1 row column).map Cell.symbol =
      some (if 0 < column ∧ column + 1 < size.width ∧ 0 < row ∧ row + 1 < size.height then
        [(rowText (Text.lines source)
          ((draw size source selected focused scroll).2.offset + (row - 1)))[column - 1]?.getD ' ']
      else (edgeCell size .plain title column row).symbol) := by
  by_cases inside : 0 < column ∧ column + 1 < size.width ∧ 0 < row ∧ row + 1 < size.height
  · obtain ⟨innerRow, rfl⟩ : ∃ inner, row = inner + 1 := ⟨row - 1, by omega⟩
    obtain ⟨innerColumn, rfl⟩ : ∃ inner, column = inner + 1 := ⟨column - 1, by omega⟩
    have shown : innerRow < view size.height := by
      unfold view
      omega
    rw [cellAt_sourcePane source selected focused scroll (by omega) (by omega), if_pos inside,
      Option.map_some, symbol_visibleRows source selected shown]
    rfl
  · rw [if_neg inside]
    unfold draw
    dsimp only
    rw [cellAt_frame high wide, if_neg inside]
    rfl

end SourcePane

/-- The source pane shows the source unaltered. With the scroll offset that is stored when the pane
is drawn, each inner row shows the source line at its place behind the number of the line, cut to
the inner width and filled up with blanks, or only blanks where there is no such line. At the same
offset the whole pane, its border included, shows the same symbols whatever is selected and whether
or not it has the focus. -/
theorem source_shown_unaltered {size : Size} {source : List Char} {selected : Option Location}
    {focused : Bool} {scroll : Scroll} {picture : Picture} {settled : Scroll}
    (drawn : SourcePane.draw size source selected focused scroll = (picture, settled)) :
    (∀ row column, row < size.inner.height → column < size.inner.width →
      (cellAt picture (row + 1) (column + 1)).map Cell.symbol =
        some [(SourcePane.rowText (Text.lines source)
          (settled.offset + row))[column]?.getD ' ']) ∧
    ∀ (other : Option Location) (focus : Bool) (start final : Scroll) (same : Picture),
      SourcePane.draw size source other focus start = (same, final) →
        final.offset = settled.offset → ∀ row column,
          (cellAt same row column).map Cell.symbol =
            (cellAt picture row column).map Cell.symbol := by
  obtain rfl : (SourcePane.draw size source selected focused scroll).1 = picture :=
    congrArg Prod.fst drawn
  obtain rfl : (SourcePane.draw size source selected focused scroll).2 = settled :=
    congrArg Prod.snd drawn
  constructor
  · intro row column high wide
    have inner : row < size.height - 2 ∧ column < size.width - 2 := ⟨high, wide⟩
    rw [SourcePane.symbol_draw (by omega) (by omega), if_pos (by omega)]
    rfl
  · intro other focus start final same drawnOther offset row column
    obtain rfl : (SourcePane.draw size source other focus start).1 = same :=
      congrArg Prod.fst drawnOther
    obtain rfl : (SourcePane.draw size source other focus start).2 = final :=
      congrArg Prod.snd drawnOther
    by_cases within : row < size.height ∧ column < size.width
    · rw [SourcePane.symbol_draw within.1 within.2, SourcePane.symbol_draw within.1 within.2,
        offset]
    · have outside (selected : Option Location) (focused : Bool) (scroll : Scroll) :
          cellAt (SourcePane.draw size source selected focused scroll).1 row column = none := by
        rw [Option.eq_none_iff_forall_ne_some]
        intro cell found
        exact within (lt_of_cellAt_frame found)
      rw [outside, outside]

/-- Two lines, the second an open quotation that ends with a backslash: with a column behind its end
selected it is shown with both its characters, and without a selection all cells show the same. -/
theorem source_shown_unaltered_quotation :
    ∃ picture settled,
      SourcePane.draw ⟨9, 4⟩ "a\n\"\\".toList (some ⟨2, 9⟩) true ⟨0, true⟩ = (picture, settled) ∧
      settled.offset = 0 ∧ (cellAt picture 2 6).map Cell.symbol = some ['"'] ∧
      (cellAt picture 2 7).map Cell.symbol = some ['\\'] ∧
      ∃ same final,
        SourcePane.draw ⟨9, 4⟩ "a\n\"\\".toList none false ⟨3, false⟩ = (same, final) ∧
        ∀ row column, (cellAt same row column).map Cell.symbol =
          (cellAt picture row column).map Cell.symbol := by
  obtain ⟨picture, settled, drawn, offset⟩ : ∃ picture settled,
      SourcePane.draw ⟨9, 4⟩ "a\n\"\\".toList (some ⟨2, 9⟩) true ⟨0, true⟩ = (picture, settled) ∧
      settled.offset = 0 := ⟨_, _, (Prod.eta _).symm, by decide⟩
  obtain ⟨same, final, drawnOther, offsetOther⟩ : ∃ same final,
      SourcePane.draw ⟨9, 4⟩ "a\n\"\\".toList none false ⟨3, false⟩ = (same, final) ∧
      final.offset = 0 := ⟨_, _, (Prod.eta _).symm, by decide⟩
  obtain ⟨shown, alike⟩ := source_shown_unaltered drawn
  have quote := shown 1 5 (by decide) (by decide)
  have backslash := shown 1 6 (by decide) (by decide)
  rw [offset] at quote backslash
  exact ⟨picture, settled, drawn, offset, quote, backslash, same, final, drawnOther,
    alike none false _ final same drawnOther (offsetOther.trans offset.symm)⟩

end Explorer

end Cpplet

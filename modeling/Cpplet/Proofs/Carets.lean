import Cpplet.Diagnostic
import Cpplet.Proofs.Agreement
import Cpplet.Proofs.Cursors
import Cpplet.Proofs.Lines

/-!
# The caret stands under the blamed character

Every error of a source blames a place in it, whichever rule of the characters or of the grammar
is broken: the cursor stands in the source wherever reading fails. So the line that a diagnostic
shows holds the place, and the caret stands behind as many characters as the blamed character.
-/

namespace Cpplet

/-! ## Errors stand in their source -/

/-- A feed that cannot be read to its end ends in the fault that stops reading. -/
theorem Feed.eq_append_of_batch_error {feed : Feed} {error : LexicalError}
    (failed : feed.batch = .error error) :
    ∃ (tokens : List Token) (token : Token) (fault : Fault),
      feed = tokens ++ Feed.last token fault ∧ error = fault.error := by
  induction feed with
  | eof location => cases failed
  | last token fault =>
    cases failed
    exact ⟨[], token, fault, rfl, rfl⟩
  | more token rest ih =>
    rw [batch] at failed
    cases behind : rest.batch with
    | ok others =>
      rw [behind] at failed
      cases failed
    | error found =>
      rw [behind] at failed
      cases failed
      obtain ⟨tokens, last, fault, rfl, rfl⟩ := ih behind
      exact ⟨token :: tokens, last, fault, rfl, rfl⟩

/-- An error behind some tokens of a source blames a place of the source. -/
theorem standsIn_of_bears {source : String} {tokens : List Token} {stop : Feed}
    {error : SourceError} (read : Feed.ofCursor (.ofSource source) = .ok (tokens ++ stop))
    (bears : stop.Bears error) : error.location.StandsIn source.toList := by
  have feeds := Feed.feeds_ofCursor (.ofSource source)
  rw [read] at feeds
  obtain ⟨here, inside, rest⟩ := feeds.behind (Cursor.standsIn_ofSource source)
  exact rest.bears_standsIn inside bears

/-- The error of a source whose first token cannot be read blames a place of the source. -/
theorem standsIn_of_fault {source : String} {fault : Fault}
    (read : Feed.ofCursor (.ofSource source) = .error fault) :
    fault.error.location.StandsIn source.toList := by
  have feeds := Feed.feeds_ofCursor (.ofSource source)
  rw [read] at feeds
  exact feeds.error_standsIn (Cursor.standsIn_ofSource source)

/-- An error of parsing blames a place of the source. -/
theorem standsIn_of_parse {source : String} {error : SourceError}
    (failed : parse source = .error error) : error.location.StandsIn source.toList := by
  rcases parse_error failed with ⟨fault, read, rfl⟩ | ⟨tokens, stop, read, -, -, bears⟩
  · exact standsIn_of_fault read
  · exact standsIn_of_bears read bears

/-- The error of listing the tokens of a source is that of a reading in the source. -/
theorem exists_next_of_tokenize {source : String} {error : LexicalError}
    (failed : tokenize source = .error error) :
    ∃ here stop : Cursor, here.StandsIn source.toList ∧ here.next = (.error error, stop) := by
  have start := Cursor.standsIn_ofSource source
  have feeds := Feed.feeds_ofCursor (.ofSource source)
  rw [Feed.tokenize_eq_batchOf] at failed
  cases read : Feed.ofCursor (.ofSource source) with
  | error fault =>
    rw [read] at failed feeds
    cases failed
    cases feeds with
    | fault next => exact ⟨_, _, start, next⟩
  | ok feed =>
    rw [read] at failed feeds
    obtain ⟨tokens, token, fault, rfl, rfl⟩ := Feed.eq_append_of_batch_error failed
    obtain ⟨here, inside, rest⟩ := feeds.behind start
    cases rest with
    | last next inner rest =>
      cases rest with
      | fault later => exact ⟨_, _, (inside.next_ok next).1, later⟩

/-- An error of listing the tokens blames a place of the source. -/
theorem standsIn_of_tokenize {source : String} {error : LexicalError}
    (failed : tokenize source = .error error) : error.location.StandsIn source.toList := by
  obtain ⟨here, stop, inside, read⟩ := exists_next_of_tokenize failed
  exact (inside.next_error read).1

/-- A place of a source has an offset. -/
theorem Location.StandsIn.exists_offset {source : List Char} {place : Location}
    (stands : place.StandsIn source) :
    ∃ offset ≤ source.length, start.past (source.take offset) = place := by
  obtain ⟨before, front, rfl⟩ := stands
  refine ⟨before.length, front.length_le, ?_⟩
  rw [← List.prefix_iff_eq_take.mp front]

/-! ## The caret -/

namespace Diagnostic

/-- As many characters stand before the caret as before the column. -/
theorem length_indent (line : List Char) (column : Nat) :
    (indent line column).length = column - 1 := by
  unfold indent
  rw [List.length_map, List.length_take, List.length_append, List.length_replicate]
  omega

/-- A tab stays a tab before the caret, and everything else is blank there. -/
theorem getElem?_indent (body : List Char) {column i : Nat} (before : i < column - 1) :
    (indent body column)[i]? = some (if body[i]? = some '\t' then '\t' else ' ') := by
  unfold indent
  rw [List.getElem?_map, List.getElem?_take_of_lt before]
  by_cases inside : i < body.length
  · rw [List.getElem?_append_left inside, List.getElem?_eq_getElem inside]
    simp
  · rw [List.getElem?_append_right (by omega), List.getElem?_eq_none (by omega : body.length ≤ i),
      List.getElem?_replicate_of_lt (by omega)]
    rfl

/-- A diagnostic is shown as the blamed line, the caret line and the message. -/
theorem toList_render (diagnostic : Diagnostic) (source : String) :
    (diagnostic.render source).toList =
      blamedLine source.toList diagnostic.location ++
        '\n' :: (indent (blamedLine source.toList diagnostic.location) diagnostic.location.column ++
          '^' :: '\n' :: diagnostic.text.toList) := by
  simp [render, String.toList_append]

end Diagnostic

/-- The caret stands under the blamed character. Wherever parsing a source or listing its tokens
fails, the error blames the place of an offset of the source. The diagnostic shows the line that
holds the offset and, below it, a caret behind as many characters as the column counts, each a
tab where the line has a tab and a space elsewhere. So above the caret stands the character at the
offset, unless the offset is in what ends the line or at the end of the source. -/
theorem caret_under_blamed {source : String} {error : SourceError}
    (failed : parse source = .error error ∨
      ∃ found, tokenize source = .error found ∧ error = .lexical found) :
    ∃ offset ≤ source.toList.length,
      Location.start.past (source.toList.take offset) = error.location ∧
      ∃ earlier body ending later padding,
        Text.LineAt source.toList offset earlier body ending later ∧
        (error.diagnostic.render source).toList =
          body ++ '\n' :: (padding ++ '^' :: '\n' :: error.diagnostic.text.toList) ∧
        padding.length + 1 = error.location.column ∧
        (∀ i < padding.length, padding[i]? = some (if body[i]? = some '\t' then '\t' else ' ')) ∧
        (offset < earlier.length + body.length →
          body[padding.length]? = source.toList[offset]?) := by
  have stands : error.location.StandsIn source.toList := by
    rcases failed with refused | ⟨found, unreadable, rfl⟩
    · exact standsIn_of_parse refused
    · exact standsIn_of_tokenize unreadable
  obtain ⟨offset, inside, leads⟩ := stands.exists_offset
  obtain ⟨earlier, body, ending, later, holds, numbered, column⟩ :=
    Text.exists_lineAt inside leads
  have blamed : Diagnostic.blamedLine source.toList error.diagnostic.location = body := numbered
  have shown := error.diagnostic.toList_render source
  rw [blamed] at shown
  have length := Diagnostic.length_indent body error.location.column
  refine ⟨offset, inside, leads, earlier, body, ending, later,
    Diagnostic.indent body error.location.column, holds, shown, ?_, ?_, ?_⟩
  · omega
  · intro i before
    exact Diagnostic.getElem?_indent body (by omega)
  · intro before
    have caret : (Diagnostic.indent body error.location.column).length =
        offset - earlier.length := by omega
    rw [caret]
    exact holds.getElem?_eq before

/-- In the source that is a tab, an opening single quote, a letter and the end of the line, the
quote that is missing behind the letter is blamed on the carriage return there. -/
theorem caret_under_blamed_return :
    ∃ error, parse "\t'a\r\n" = .error error ∧ error.location = ⟨1, 4⟩ ∧
      ∃ offset ≤ 5, Location.start.past ("\t'a\r\n".toList.take offset) = ⟨1, 4⟩ ∧
        ∃ earlier body ending later padding,
          Text.LineAt "\t'a\r\n".toList offset earlier body ending later ∧
          (error.diagnostic.render "\t'a\r\n").toList =
            body ++ '\n' :: (padding ++ '^' :: '\n' :: error.diagnostic.text.toList) ∧
          padding.length = 3 := by
  obtain ⟨error, failed, place⟩ :
      ∃ error, parse "\t'a\r\n" = .error error ∧ error.location = ⟨1, 4⟩ := ⟨_, by cbv, by cbv⟩
  obtain ⟨offset, inside, leads, earlier, body, ending, later, padding, holds, shown, column, -⟩ :=
    caret_under_blamed (.inl failed)
  rw [place] at leads column
  exact ⟨error, failed, place, offset, inside, leads, earlier, body, ending, later, padding, holds,
    shown, Nat.succ.inj column⟩

end Cpplet

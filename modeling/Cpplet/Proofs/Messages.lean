import Cpplet.Proofs.Carets
import Cpplet.Proofs.Pointing
import Cpplet.Proofs.Wording

/-!
# The lines of a diagnostic

A diagnostic shows the blamed line, the caret and the message, and neither the line nor the caret
holds a line feed. A message names tokens, which is done on one line, or it quotes what stands at
the blamed place: a number, a character that is no blank, or the letter of an escape. The letter
may be any character. So a message holds a line feed exactly when a line ends behind a backslash
inside a constant.
-/

namespace Cpplet

open Lexeme Trivia
open Text (OneLine)

/-! ## What flaws quote -/

/-- Whether the text behind the blamed place is what the message of a flaw quotes, as far as it
matters to the lines of the message. -/
def Flaw.Quotes (flaw : Flaw) (behind : List Char) : Prop :=
  match flaw with
  | .exponentWithoutDigits number => OneLine number
  | .integerTooLarge digits => OneLine digits
  | .invalidFloat number => OneLine number
  | .unknownEscape letter => ['\\', letter] <+: behind
  | .strayCharacter c => c ≠ '\n'
  | _ => True

/-- The message of a flaw holds a line feed only for an escape of the line feed. -/
theorem Flaw.Quotes.feed_mem_message {flaw : Flaw} {behind : List Char}
    (quotes : flaw.Quotes behind) : '\n' ∈ flaw.message.toList ↔ flaw = .unknownEscape '\n' := by
  unfold message
  cases flaw with
  | exponentWithoutDigits number =>
    refine iff_of_false (OneLine.inline ?_) nofun
    rw [String.toList_append, String.toList_append, @String.toList_ofList number]
    refine .append (.append ?_ quotes) ?_ <;> decide +kernel
  | integerTooLarge digits =>
    refine iff_of_false (OneLine.inline ?_) nofun
    rw [String.toList_append, @String.toList_ofList digits]
    exact .append (by decide +kernel) quotes
  | invalidFloat number =>
    refine iff_of_false (OneLine.inline ?_) nofun
    rw [String.toList_append, @String.toList_ofList number]
    exact .append (by decide +kernel) quotes
  | unknownEscape letter =>
    have words : OneLine "Unknown escape sequence: \\".toList := by decide +kernel
    rw [String.toList_append, @String.toList_ofList [letter], List.mem_append,
      or_iff_right words.inline, List.mem_singleton, Flaw.unknownEscape.injEq, eq_comm]
  | strayCharacter c =>
    have words : OneLine "Unexpected character: '".toList := by decide +kernel
    have other : '\n' ≠ c := Ne.symm quotes
    refine iff_of_false ?_ nofun
    rw [String.toList_append, String.toList_append, @String.toList_ofList [c], List.mem_append,
      List.mem_append, List.mem_singleton]
    exact not_or.mpr ⟨not_or.mpr ⟨words.inline, other⟩, by decide⟩
  | _ => exact iff_of_false (OneLine.inline (by decide +kernel)) nofun

/-- Whether the flaw of a misfit quotes the text where it blames it. -/
def Misfit.Quotes (misfit : Misfit) (input : List Char) : Prop :=
  ∃ behind, input = misfit.lead ++ behind ∧ misfit.flaw.Quotes behind

/-- A run of digits holds no line break. -/
theorem oneLine_takeWhile_isDigit (input : List Char) : OneLine (input.takeWhile isDigit) :=
  fun _ member => Text.not_mem_lineBreaks (by decide) (inside_of_mem_takeWhile member)

/-- What is read of an exponent holds no line break. -/
theorem Exponent.oneLine_tail {input : List Char} {exponent : Exponent}
    (found : of? input = some exponent) : OneLine exponent.tail := by
  unfold of? at found
  split at found
  · cases found
  · split at found
    · cases found
      have sign (text : List Char) : OneLine (text.filter isSign) :=
        fun _ member => Text.not_mem_lineBreaks (by decide) (List.mem_filter.mp member).2
      exact (sign _).append (oneLine_takeWhile_isDigit _)
    · cases found

/-- What messages show of a number holds no line break. -/
theorem Numeral.oneLine_shown (input : List Char) : OneLine (of input).shown := by
  have fraction (text : List Char) : OneLine (fractionText (fractionOf? text)) := by
    unfold fractionOf?
    split
    · exact .cons (by decide) (oneLine_takeWhile_isDigit _)
    · exact nofun
  have front := (oneLine_takeWhile_isDigit input).append
    (fraction (input.drop (input.takeWhile isDigit).length))
  unfold shown
  split
  · rename_i exponent found
    exact front.append (.cons (by decide) (Exponent.oneLine_tail found))
  · exact front.append nofun

namespace Lexeme

/-- The flaw of a number quotes the number. -/
theorem quotes_of_number {input : List Char} {misfit : Misfit}
    (failed : number input = .error misfit) : misfit.Quotes input := by
  unfold number at failed
  simp only at failed
  split at failed
  · cases failed
    exact ⟨input, rfl, Numeral.oneLine_shown input⟩
  · split at failed
    · split at failed
      · contradiction
      · cases failed
        exact ⟨input, rfl, Numeral.oneLine_shown input⟩
    · split at failed
      · contradiction
      · cases failed
        exact ⟨input, rfl, oneLine_takeWhile_isDigit input⟩

/-- The flaw of a string constant quotes the escape that it blames. -/
theorem quotes_of_string {input : List Char} {misfit : Misfit}
    (failed : string input = .error misfit) : misfit.Quotes ('"' :: input) := by
  obtain ⟨-, front⟩ := Run.spells_of input
  have split := eq_append_drop front
  unfold string at failed
  simp only at failed
  split at failed
  · contradiction
  · rename_i letter rest next
    cases failed
    rw [next] at split
    exact ⟨'\\' :: letter :: rest, congrArg ('"' :: ·) split, ⟨rest, rfl⟩⟩
  · rename_i next
    cases failed
    rw [next] at split
    exact ⟨['\\'], congrArg ('"' :: ·) split, trivial⟩
  · cases failed
    exact ⟨'"' :: input, rfl, trivial⟩

/-- A character constant that goes on is blamed behind its one character. -/
theorem quotes_of_closeChar {written rest : List Char} {c : Char} {misfit : Misfit}
    (failed : closeChar written c rest = .error misfit) : misfit.Quotes (written ++ rest) := by
  unfold closeChar at failed
  split at failed
  · contradiction
  · cases failed
    exact ⟨_, rfl, trivial⟩

/-- The flaw of a character constant quotes the escape that it blames. -/
theorem quotes_of_char {input : List Char} {misfit : Misfit}
    (failed : char input = .error misfit) : misfit.Quotes ('\'' :: input) := by
  unfold char at failed
  split at failed
  · cases failed
    exact ⟨_, rfl, trivial⟩
  · cases failed
    exact ⟨_, rfl, trivial⟩
  · cases failed
    exact ⟨_, rfl, trivial⟩
  · cases failed
    exact ⟨_, rfl, trivial⟩
  · rename_i letter rest
    split at failed
    · exact quotes_of_closeChar failed
    · cases failed
      exact ⟨'\\' :: letter :: rest, rfl, ⟨rest, rfl⟩⟩
  · exact quotes_of_closeChar failed

/-- The flaw at a token that is none quotes what stands there. -/
theorem quotes_of_front {c : Char} {rest : List Char} {misfit : Misfit}
    (plain : ¬ Opens (c :: rest)) (failed : front c rest = .error misfit) :
    misfit.Quotes (c :: rest) := by
  unfold front at failed
  split at failed
  · contradiction
  · split at failed
    · exact quotes_of_number failed
    · split at failed
      · rename_i double
        subst double
        exact quotes_of_string failed
      · split at failed
        · rename_i single
          subst single
          exact quotes_of_char failed
        · unfold mark at failed
          split at failed
          · contradiction
          · cases failed
            exact ⟨c :: rest, rfl, (ne_of_not_opens plain).1⟩

end Lexeme

/-- The flaw of a comment without end quotes nothing. -/
theorem Trivia.quotes_of_skipWithin {rounds input : List Char} {misfit : Misfit}
    (failed : skipWithin rounds input = .error misfit) : misfit.Quotes input := by
  induction rounds generalizing input misfit with
  | nil =>
    unfold skipWithin at failed
    split at failed
    · contradiction
    · cases failed
      exact ⟨_, rfl, trivial⟩
    · contradiction
  | cons round rounds ih =>
    unfold skipWithin at failed
    split at failed
    · contradiction
    · cases failed
      exact ⟨_, rfl, trivial⟩
    · rename_i text found
      obtain ⟨-, rest, rfl, -⟩ := Piece.skipped_of found
      rw [List.drop_left] at failed
      cases skipped : skipWithin rounds rest with
      | ok more => simp [skipped] at failed
      | error inner =>
        simp only [skipped, Except.error.injEq] at failed
        subst failed
        obtain ⟨behind, rfl, quotes⟩ := ih skipped
        exact ⟨behind, (List.append_assoc _ _ _).symm, quotes⟩

/-! ## What errors quote -/

/-- Whether the flaw of an error quotes the source where it blames it. -/
def LexicalError.QuotesIn (source : List Char) (error : LexicalError) : Prop :=
  ∃ before behind, source = before ++ behind ∧ error.location = Location.start.past before ∧
    error.flaw.Quotes behind

namespace Cursor

variable {source : List Char} {cursor : Cursor}

/-- A misfit at a cursor that quotes the text there quotes the source. -/
theorem StandsIn.quotesIn_of_misread (stands : cursor.StandsIn source) {misfit : Misfit}
    (quotes : misfit.Quotes cursor.rest) {error : LexicalError} {stop : Cursor}
    (read : cursor.misread misfit = (.error error, stop)) : error.QuotesIn source := by
  obtain ⟨before, split, place⟩ := stands
  obtain ⟨behind, rest, quotes⟩ := quotes
  cases read
  refine ⟨before ++ misfit.lead, behind, ?_, ?_, quotes⟩
  · rw [split, rest, List.append_assoc]
  · rw [Location.past_append, ← place]

/-- A failed reading quotes the source where it blames it. -/
theorem StandsIn.quotesIn_of_next (stands : cursor.StandsIn source) {error : LexicalError}
    {stop : Cursor} (read : cursor.next = (.error error, stop)) : error.QuotesIn source := by
  unfold next at read
  split at read
  · rename_i gap skipped
    obtain ⟨behind, split, -, plain⟩ := separates_of_skipWithin (Nat.le_refl _) skipped
    have here := stands.past (Trivia.prefix_of_skip skipped)
    unfold token at read
    split at read
    · cases read
    · rename_i c rest left
      split at read
      · cases read
      · rename_i misfit failed
        have same : behind = c :: rest := by
          rw [Cursor.past, split, List.drop_left] at left
          exact left
        rw [same] at plain
        refine here.quotesIn_of_misread ?_ read
        rw [left]
        exact quotes_of_front plain failed
  · rename_i misfit failed
    exact stands.quotesIn_of_misread (Trivia.quotes_of_skipWithin failed) read

end Cursor

/-- The error of listing the tokens of a source quotes the source where it blames it. -/
theorem quotesIn_of_tokenize {source : String} {error : LexicalError}
    (failed : tokenize source = .error error) : error.QuotesIn source.toList := by
  obtain ⟨here, stop, inside, read⟩ := exists_next_of_tokenize failed
  exact inside.quotesIn_of_next read

/-- What is expected is worded without line breaks. -/
theorem Expectation.oneLine_describe (expected : Expectation) :
    OneLine expected.describe.toList := by
  cases expected with
  | kind wanted => exact wanted.oneLine_describe
  | _ => decide +kernel

/-- The message of an error in the grammar holds no line feed. -/
theorem inline_of_grammatical {source : String} {error : SyntaxError}
    (failed : parse source = .error (.grammatical error)) :
    '\n' ∉ error.breach.message.toList := by
  obtain ⟨breach, location⟩ := error
  cases breach with
  | unexpected expected found =>
    obtain ⟨tokens, stop, read, rfl⟩ := parse_found failed
    have feeds := Feed.feeds_ofCursor (.ofSource source)
    rw [read] at feeds
    obtain ⟨here, -, rest⟩ := feeds.behind (Cursor.standsIn_ofSource source)
    have words : OneLine ("Expected " ++ expected.describe ++ " but found ").toList := by
      rw [String.toList_append, String.toList_append]
      exact (OneLine.append (by decide +kernel) expected.oneLine_describe).append
        (by decide +kernel)
    rw [Breach.message, String.toList_append, List.mem_append]
    exact not_or.mpr ⟨words.inline, rest.keepsLine_current.inline_describe⟩
  | tooDeep nested =>
    have words : OneLine (Breach.tooDeep nested).message.toList := by
      cases nested <;> decide +kernel
    exact words.inline

/-- The message of an error holds a line feed exactly when the error is an unknown escape at a
backslash that stands before a line feed. -/
theorem feed_mem_message_iff {source : String} {error : SourceError}
    (failed : parse source = .error error ∨
      ∃ found, tokenize source = .error found ∧ error = .lexical found) :
    '\n' ∈ error.message.toList ↔
      ∃ before behind, source.toList = before ++ '\\' :: '\n' :: behind ∧
        error = .lexical ⟨.unknownEscape '\n', Location.start.past before⟩ := by
  constructor
  · intro feed
    cases error with
    | grammatical error =>
      rcases failed with refused | ⟨found, -, other⟩
      · exact absurd feed (inline_of_grammatical refused)
      · cases other
    | lexical error =>
      have unreadable : tokenize source = .error error := by
        rcases failed with refused | ⟨found, unreadable, same⟩
        · exact tokenize_of_lexical refused
        · cases same
          exact unreadable
      obtain ⟨before, behind, split, place, quotes⟩ := quotesIn_of_tokenize unreadable
      have escape : error.flaw = .unknownEscape '\n' := quotes.feed_mem_message.mp feed
      obtain ⟨flaw, location⟩ := error
      cases escape
      cases place
      obtain ⟨rest, rfl⟩ := quotes
      exact ⟨before, rest, split, rfl⟩
  · rintro ⟨before, behind, -, rfl⟩
    have quotes : (Flaw.unknownEscape '\n').Quotes ['\\', '\n'] := List.prefix_rfl
    exact quotes.feed_mem_message.mpr rfl

/-! ## The lines -/

/-- No line feed stands before the message of a diagnostic in its text. -/
theorem Diagnostic.feed_mem_text (diagnostic : Diagnostic) :
    '\n' ∈ diagnostic.text.toList ↔ '\n' ∈ diagnostic.message.toList := by
  have heading : OneLine (diagnostic.phase.describe ++ " error at line " ++
      Decimal.natText diagnostic.location.line ++ ", column " ++
      Decimal.natText diagnostic.location.column ++ ": ").toList := by
    have phase : OneLine diagnostic.phase.describe.toList := by
      cases diagnostic.phase <;> decide
    have number (n : Nat) : OneLine (Decimal.natText n).toList := by
      rw [Decimal.natText, String.toList_ofList]
      exact Decimal.oneLine_natDigits n
    simp only [String.toList_append]
    refine .append (.append (.append (.append (.append phase ?_) (number _)) ?_) (number _)) ?_ <;>
      decide +kernel
  rw [text, String.toList_append, List.mem_append, or_iff_right heading.inline]

/-- No line feed stands in the blamed line. -/
theorem Diagnostic.inline_blamedLine (source : List Char) (location : Location) :
    '\n' ∉ blamedLine source location := by
  unfold blamedLine
  cases found : (Text.lines source)[location.line - 1]? with
  | none => exact List.not_mem_nil
  | some line => exact Text.inline_of_mem_lines (List.mem_of_getElem? found)

/-- The line of the caret holds no line feed before the caret. -/
theorem Diagnostic.inline_indent (line : List Char) (column : Nat) :
    '\n' ∉ indent line column := by
  intro member
  obtain ⟨c, -, shown⟩ := List.mem_map.mp member
  split at shown <;> cases shown

/-- A diagnostic has three lines but for one sort of error. Wherever parsing a source or listing
its tokens fails, the diagnostic is the blamed line, the caret line and the text of the error, each
of the first two without a line feed in it. The text holds a line feed exactly when the message
does, and this does exactly when the error is an unknown escape at a backslash that stands before a
line feed. -/
theorem diagnostic_lines {source : String} {error : SourceError}
    (failed : parse source = .error error ∨
      ∃ found, tokenize source = .error found ∧ error = .lexical found) :
    ∃ line caret, line = Diagnostic.blamedLine source.toList error.location ∧
      caret = Diagnostic.indent line error.location.column ++ ['^'] ∧
      (error.diagnostic.render source).toList =
        line ++ '\n' :: (caret ++ '\n' :: error.diagnostic.text.toList) ∧
      '\n' ∉ line ∧ '\n' ∉ caret ∧
      ('\n' ∈ error.diagnostic.text.toList ↔ '\n' ∈ error.message.toList) ∧
      ('\n' ∈ error.message.toList ↔
        ∃ before behind, source.toList = before ++ '\\' :: '\n' :: behind ∧
          error = .lexical ⟨.unknownEscape '\n', Location.start.past before⟩) := by
  refine ⟨_, _, rfl, rfl, ?_, Diagnostic.inline_blamedLine _ _, ?_, error.diagnostic.feed_mem_text,
    feed_mem_message_iff failed⟩
  · rw [Diagnostic.toList_render, List.append_assoc]
    rfl
  · rw [List.mem_append]
    exact not_or.mpr ⟨Diagnostic.inline_indent _ _, by decide⟩

/-- A string constant of a line feed, where a name should be, is shown by its escape. -/
theorem diagnostic_lines_string :
    ∃ error, parse "int \"\\n\";" = .error error ∧ '\n' ∉ error.message.toList ∧
      ∃ caret, '\n' ∉ caret ∧ (error.diagnostic.render "int \"\\n\";").toList =
        "int \"\\n\";".toList ++ '\n' :: (caret ++ '\n' :: error.diagnostic.text.toList) := by
  obtain ⟨error, failed, first⟩ : ∃ error : SyntaxError,
      parse "int \"\\n\";" = .error (.grammatical error) ∧ error.location.line = 1 :=
    ⟨_, by cbv, by cbv⟩
  obtain ⟨line, caret, shown, -, rendered, -, inline, -, feed⟩ := diagnostic_lines (.inl failed)
  have whole : line = "int \"\\n\";".toList := by
    rw [shown, Diagnostic.blamedLine, SourceError.location, first]
    decide +kernel
  rw [whole] at rendered
  refine ⟨_, failed, fun member => ?_, caret, inline, rendered⟩
  obtain ⟨before, behind, -, other⟩ := feed.mp member
  cases other

/-- Behind an opening double quote and a backslash the line ends, and so does the third line of the
diagnostic. -/
theorem exists_feed_mem_message :
    ∃ error, parse "\"\\\n" = .error error ∧ '\n' ∈ error.message.toList ∧
      error.diagnostic.render "\"\\\n" =
        "\"\\\n ^\nLexical error at line 1, column 2: Unknown escape sequence: \\\n" :=
  ⟨_, by cbv, by decide +kernel, by decide +kernel⟩

end Cpplet

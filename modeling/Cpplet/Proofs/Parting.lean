import Cpplet.Proofs.Printing
import Cpplet.Proofs.Resuming

/-!
# Gaps tell nothing

A gap that begins with a blank, and whose comments are all closed, can be put before or behind
any token of a source. No lexeme goes on with a blank, so the lexemes before the gap stay the
longest ones and the comments before it stay comments; the gap itself is skipped together with
whatever gap stands there; and what is behind it is read at other places, which nothing depends
on. So the source tells the same as before: the same kinds and values in the same order, or the
same error (`tokenize_ignores_gaps`).
-/

namespace Cpplet

namespace Trivia

/-- Whether a text parts tokens: it begins with a blank and is a gap whatever stands behind it, so
that all its comments are closed. -/
structure Parts (gap : List Char) : Prop where
  /-- The first character is a blank. -/
  begins : ∃ c ∈ gap.head?, Text.isBlank c = true
  /-- The text holds blanks and closed comments only. -/
  closed : ∀ behind, Separates behind gap

/-- What is skipped, with a text in front that is skipped first. -/
def prepend (text : List Char) : Except Misfit (List Char) → Except Misfit (List Char)
  | .ok more => .ok (text ++ more)
  | .error misfit => .error ⟨misfit.flaw, text ++ misfit.lead, text ++ misfit.read⟩

/-- A text is skipped behind the text that is skipped before it. -/
theorem prepend_append (first second : List Char) (skipped : Except Misfit (List Char)) :
    prepend (first ++ second) skipped = prepend first (prepend second skipped) := by
  cases skipped <;> simp [prepend]

/-- The count of rounds does not matter as long as it lasts. -/
theorem skipWithin_congr {first second input : List Char} (enough : input.length ≤ first.length)
    (enoughToo : input.length ≤ second.length) :
    skipWithin first input = skipWithin second input := by
  induction first generalizing second input with
  | nil =>
    obtain rfl : input = [] := List.length_eq_zero_iff.mp (Nat.le_zero.mp enough)
    cases second <;> rfl
  | cons round first ih =>
    cases second with
    | nil =>
      obtain rfl : input = [] := List.length_eq_zero_iff.mp (Nat.le_zero.mp enoughToo)
      rfl
    | cons other second =>
      unfold skipWithin
      cases found : Piece.of input with
      | none => rfl
      | unclosed => rfl
      | skipped text =>
        obtain ⟨some, rest, rfl, -⟩ := Piece.skipped_of found
        have step : 0 < text.length := List.length_pos_iff.mpr some
        simp only [List.length_append, List.length_cons] at enough enoughToo
        have same : skipWithin first rest = skipWithin second rest :=
          ih (by omega) (by omega)
        simp only [List.drop_left, same]

/-- What is skipped at once is skipped before everything behind it. -/
theorem skip_of_skipped {text rest : List Char} (found : Piece.of (text ++ rest) = .skipped text) :
    skip (text ++ rest) = prepend text (skip rest) := by
  obtain ⟨some, -⟩ := Piece.skipped_of found
  obtain ⟨c, others, rfl⟩ := List.exists_cons_of_ne_nil some
  have same : skipWithin (others ++ rest) rest = skip rest :=
    skipWithin_congr (by simp) (Nat.le_refl _)
  rw [skip, skipWithin, found]
  simp only [List.cons_append, List.length_cons, List.drop_succ_cons, List.drop_left, same]
  cases skip rest <;> rfl

/-- A gap is skipped before everything behind it, whether that can be skipped or not. -/
theorem skip_append {gap behind : List Char} (separates : Separates behind gap) :
    skip (gap ++ behind) = prepend gap (skip behind) := by
  induction size : gap.length using Nat.strongRecOn generalizing gap with
  | ind bound ih =>
    by_cases nothing : gap = []
    · subst nothing
      rw [List.nil_append]
      cases skip behind <;> rfl
    · obtain ⟨text, rest, some, rfl, more, found⟩ := Piece.of_separates separates nothing
      have step : 0 < text.length := List.length_pos_iff.mpr some
      rw [List.length_append] at size
      have skipped : skip (rest ++ behind) = prepend rest (skip behind) :=
        ih rest.length (by omega) more rfl
      rw [List.append_assoc] at found ⊢
      rw [skip_of_skipped found, skipped, prepend_append]

/-- Only the end of the file behind a gap can be what ends its last comment. -/
theorem Separates.of_ne_nil {behind other gap : List Char} (separates : Separates behind gap)
    (some : behind ≠ []) : Separates other gap := by
  induction separates with
  | nil => exact .nil
  | blank isBlank _ ih => exact .blank isBlank ih
  | line inline _ ih => exact .line inline ih
  | lastLine inline last => exact absurd last some
  | block unclosed _ ih => exact .block unclosed ih

end Trivia

open Trivia

/-- A gap at a cursor is read past, whatever stands behind it. -/
theorem Cursor.next_append {gap behind : List Char} (separates : Separates behind gap)
    (place : Location) :
    Cursor.next ⟨gap ++ behind, place⟩ = Cursor.next ⟨behind, place.past gap⟩ := by
  have here : Cursor.past ⟨gap ++ behind, place⟩ gap = ⟨behind, place.past gap⟩ := by
    rw [past, List.drop_left]
  unfold next
  simp only [skip_append separates]
  cases skip behind with
  | ok more =>
    simp only [prepend, past_append, here]
  | error misfit =>
    simp only [prepend, misread, past_append, here, Location.past_append]

/-! ## Lexemes before a blank

Behind a lexeme the text may be cut at any point and go on with a blank instead: what is left of
it still ends the lexeme, and where nothing is left of it the blank does. -/

section

variable {c : Char} {behind rest : List Char}

/-- A word does not go on with a blank. -/
theorem Lexeme.continuesWord_eq_false_of_isBlank (blank : Text.isBlank c = true) :
    Lexeme.continuesWord c = false := by
  have letter : Text.isAlphabetic c = false :=
    Text.CharSet.contains_eq_false_of_apart (by decide +kernel) blank
  have numeral : Text.isNumeric c = false :=
    Text.CharSet.contains_eq_false_of_apart (by decide +kernel) blank
  have different : c ≠ '_' := by
    rintro rfl
    exact absurd blank (by decide)
  simp [Lexeme.continuesWord, letter, numeral, different]

/-- A text that does not begin with a character of a class does not begin with one either where it
is cut before a character outside of the class. -/
theorem Stops.cut {test : Char → Bool} {mid : List Char} (stops : Stops test (mid ++ behind))
    (outside : test c = false) : Stops test (mid ++ c :: rest) := by
  cases mid with
  | nil => exact Stops.cons_iff.mpr outside
  | cons first more => exact Stops.cons_iff.mpr (Stops.cons_iff.mp stops)

/-- What begins a text and lacks one of its characters ends before that. -/
theorem prefix_of_not_mem {text front : List Char} (begins : text <+: front ++ c :: rest)
    (lacks : c ∉ text) : text <+: front := by
  rcases List.prefix_or_prefix_of_prefix begins (List.prefix_append front (c :: rest)) with
    shorter | longer
  · exact shorter
  · obtain ⟨more, rfl⟩ := longer
    rw [List.prefix_append_right_inj] at begins
    cases more with
    | nil => simp
    | cons first more =>
      obtain ⟨rfl, -⟩ := List.cons_prefix_cons.mp begins
      exact absurd (List.mem_append_right front List.mem_cons_self) lacks

/-- No mark is written with a blank. -/
theorem Mark.not_mem_of_isBlank (symbol : Mark) (blank : Text.isBlank c = true) :
    c ∉ symbol.spelling.toList := by
  have visible : symbol.spelling.toList.all (fun d => !Text.isBlank d) = true := by
    cases symbol <;> rfl
  intro member
  have dark := List.all_eq_true.mp visible c member
  rw [blank] at dark
  cases dark

/-- The longest mark stays the longest one where the text is cut before a blank. -/
theorem Mark.Longest.cut {symbol : Mark} {front : List Char}
    (longest : symbol.Longest (front ++ behind)) (blank : Text.isBlank c = true) :
    symbol.Longest (front ++ c :: rest) := by
  intro other begins
  have uncut : other.spelling.toList <+: front :=
    prefix_of_not_mem begins (other.not_mem_of_isBlank blank)
  exact longest other (uncut.trans (List.prefix_append front behind))

/-- What follows a number still prolongs none of its parts where it is cut before a blank. -/
theorem Numeral.Ends.cut {numeral : Numeral} {mid : List Char}
    (ends : numeral.Ends (mid ++ behind)) (blank : Text.isBlank c = true) :
    numeral.Ends (mid ++ c :: rest) := by
  have outside {test : Char → Bool} (mark : ∀ d, test d = true → Text.isBlank d = false) :
      test c = false := by
    rw [← Bool.not_eq_true]
    intro inside
    rw [mark c inside] at blank
    cases blank
  constructor
  · exact ends.digit.cut (outside fun d => isBlank_eq_false_of_isDigit)
  · intro plain
    apply (ends.point plain).cut
    apply outside
    intro d point
    rw [of_decide_eq_true point]
    rfl
  · intro none
    apply (ends.letter none).cut
    apply outside
    intro d letter
    rw [Exponent.isLetter, Bool.or_eq_true, decide_eq_true_eq, decide_eq_true_eq] at letter
    rcases letter with rfl | rfl <;> rfl

/-- A lexeme stays one where the text behind it is cut before a blank. -/
theorem Lexeme.Stands.cut {lexeme : Lexeme} {mid : List Char}
    (stands : lexeme.Stands (mid ++ behind)) (blank : Text.isBlank c = true) :
    lexeme.Stands (mid ++ c :: rest) := by
  have word {text : List Char} (whole : WholeWord text (mid ++ behind)) :
      WholeWord text (mid ++ c :: rest) :=
    ⟨whole.begins, whole.continues,
      whole.ends.cut (continuesWord_eq_false_of_isBlank blank)⟩
  cases stands with
  | keyword whole => exact .keyword (word whole)
  | name whole free => exact .name (word whole) free
  | @mark symbol longest =>
    rw [← List.append_assoc] at longest
    have shorter : symbol.Longest (symbol.spelling.toList ++ mid ++ c :: rest) :=
      longest.cut blank
    rw [List.append_assoc] at shorter
    exact .mark shorter
  | integer proper ends plain fits => exact .integer proper (ends.cut blank) plain fits
  | float proper ends isFloat bare value =>
    have noSuffix : isFloatSuffix c = false := by
      rw [← Bool.not_eq_true, isFloatSuffix, Bool.or_eq_true, decide_eq_true_eq, decide_eq_true_eq]
      rintro (rfl | rfl) <;> exact absurd blank (by decide)
    exact .float proper (ends.cut blank) isFloat (bare.cut noSuffix) value
  | suffixed proper isFloat suffix value => exact .suffixed proper isFloat suffix value
  | string spells => exact .string spells
  | char spells => exact .char spells

/-- No gap begins a text that is cut before a blank, unless one began it before or nothing is left
of it. -/
theorem Trivia.not_opens_cut {front : List Char} (some : front ≠ [])
    (plain : ¬ Opens (front ++ behind)) (blank : Text.isBlank c = true) :
    ¬ Opens (front ++ c :: rest) := by
  have uncut {text : List Char} (lacks : c ∉ text) (begins : text <+: front ++ c :: rest) :
      text <+: front ++ behind :=
    (prefix_of_not_mem begins lacks).trans (List.prefix_append front behind)
  have different : c ≠ '/' ∧ c ≠ '*' := by
    constructor <;> rintro rfl <;> exact absurd blank (by decide)
  rintro (first | line | block)
  · obtain ⟨d, more, rfl⟩ := List.exists_cons_of_ne_nil some
    exact plain (.inl first)
  · exact plain (.inr (.inl (uncut (by simp [different]) line)))
  · exact plain (.inr (.inr (uncut (by simp [different]) block)))

end

namespace Cursor

/-- A token is read as before where the text behind it is cut before a blank. -/
theorem next_cut {cursor stop : Cursor} {token : Token} {mid behind rest : List Char} {c : Char}
    (read : cursor.next = (.ok token, stop)) (inner : token.kind ≠ .eof)
    (left : stop.rest = mid ++ behind) (blank : Text.isBlank c = true) :
    ∃ front, cursor.rest = front ++ (mid ++ behind) ∧
      next ⟨front ++ (mid ++ c :: rest), cursor.location⟩ =
        (.ok token, ⟨mid ++ c :: rest, stop.location⟩) := by
  obtain ⟨gap, text, split, separates, plain, here⟩ := exists_gap_of_next read
  obtain ⟨lexeme, rfl, some, stands, rfl, place⟩ := exists_lexeme_of_token here inner
  rw [left] at split separates plain stands
  refine ⟨gap ++ lexeme.text, by rw [split, List.append_assoc], ?_⟩
  have something : lexeme.text ++ (mid ++ behind) ≠ [] := by simp [some]
  have gapStays : Separates (lexeme.text ++ (mid ++ c :: rest)) gap :=
    separates.of_ne_nil something
  have plainStays : ¬ Opens (lexeme.text ++ (mid ++ c :: rest)) := by
    rw [← List.append_assoc] at plain ⊢
    exact not_opens_cut (by simp [some]) plain blank
  have lexemeStays : lexeme.Stands (mid ++ c :: rest) := stands.cut blank
  rw [List.append_assoc, next_of_separates _ gapStays plainStays,
    token_of_stands _ some lexemeStays, place]

/-- The cursors that reading token after token comes to, before the end of the file. -/
inductive Reaches (start : Cursor) : Cursor → Prop where
  /-- Nothing has been read. -/
  | here : Reaches start start
  /-- One more token is read. -/
  | next {cursor stop : Cursor} {token : Token} (reached : Reaches start cursor)
      (read : cursor.next = (.ok token, stop)) (inner : token.kind ≠ .eof) : Reaches start stop

/-- Reading token after token stays in the source. -/
theorem Reaches.standsIn {source : List Char} {start cursor : Cursor}
    (reaches : Reaches start cursor) (stands : start.StandsIn source) : cursor.StandsIn source := by
  induction reaches with
  | here => exact stands
  | next _ read _ ih => exact (ih.next_ok read).1

end Cursor

/-! ## What a source tells -/

/-- What reading all tokens tells, places aside: their kinds and values in order, or the message
of the error. -/
def gist : Except LexicalError (List Token) → Except String (List (Kind × Option Value))
  | .ok tokens => .ok (tokens.map Token.content)
  | .error error => .error error.flaw.message

/-- One more token in front is told first. -/
theorem gist_map_cons (token : Token) (result : Except LexicalError (List Token)) :
    gist (result.map (token :: ·)) = (gist result).map (token.content :: ·) := by
  cases result <;> rfl

/-- Places do not change what a feed tells. -/
theorem gist_relocate (move : Location → Location) (result : Except Fault Feed) :
    gist (Feed.batchOf (Placed.relocate move result)) = gist (Feed.batchOf result) := by
  cases result with
  | error fault => rfl
  | ok feed =>
    show gist (feed.relocate move).batch = gist feed.batch
    induction feed with
    | eof location => rfl
    | last token fault => rfl
    | more token rest ih =>
      rw [Feed.relocate, Feed.batch, Feed.batch, gist_map_cons, gist_map_cons, ih]
      rfl

/-- What is fed at a cursor is fed at every cursor with the same next token. -/
theorem Feeds.congr {first second : Cursor} {result : Except Fault Feed}
    (feeds : Feeds second result) (same : first.next = second.next) : Feeds first result := by
  cases feeds with
  | fault read => exact .fault (same.trans read)
  | eof read final => exact .eof (same.trans read) final
  | last read inner rest => exact .last (same.trans read) inner rest
  | more read inner rest => exact .more (same.trans read) inner rest

namespace Cursor

/-- All tokens from a cursor on are those of its feed. -/
theorem tokens_of_feeds {cursor : Cursor} {result : Except Fault Feed}
    (feeds : Feeds cursor result) : cursor.tokens.1 = Feed.batchOf result :=
  Feed.drain_of_feeds feeds (Nat.le_refl _)

/-- Cursors with the same next token have the same tokens. -/
theorem tokens_congr {first second : Cursor} (same : first.next = second.next) :
    first.tokens.1 = second.tokens.1 := by
  have feeds := Feed.feeds_ofCursor second
  rw [tokens_of_feeds feeds, tokens_of_feeds (feeds.congr same)]

/-- All tokens are the next one and those behind it. -/
theorem tokens_of_next {cursor stop : Cursor} {token : Token}
    (read : cursor.next = (.ok token, stop)) (inner : token.kind ≠ .eof) :
    cursor.tokens.1 = stop.tokens.1.map (token :: ·) := by
  have feeds := Feed.feeds_ofCursor cursor
  obtain ⟨rest, behind, whole⟩ := feeds.of_token read inner
  rw [whole] at feeds
  rw [tokens_of_feeds feeds, tokens_of_feeds behind]
  cases rest <;> rfl

/-- What a text tells does not depend on the place where it stands. -/
theorem gist_tokens (rest : List Char) (place other : Location) :
    gist (tokens ⟨rest, place⟩).1 = gist (tokens ⟨rest, other⟩).1 := by
  have alone (here : Location) : gist (tokens ⟨rest, here⟩).1 =
      gist (Feed.batchOf (Feed.ofCursor (.ofSource (String.ofList rest)))) := by
    have feeds := Feed.feeds_ofCursor ⟨rest, here⟩
    rw [tokens_of_feeds feeds, feeds.eq_shift, gist_relocate]
  rw [alone place, alone other]

/-- Whether what is left at a cursor tells the same with a gap before its end `behind`. -/
def Admits (gap behind : List Char) (cursor : Cursor) : Prop :=
  ∃ front, cursor.rest = front ++ behind ∧
    gist (tokens ⟨front ++ (gap ++ behind), cursor.location⟩).1 = gist cursor.tokens.1

variable {gap behind : List Char}

/-- A gap may be put behind another whose comments are closed. -/
theorem admits_of_separates {cursor : Cursor} {skipped : List Char} (parts : Parts gap)
    (left : cursor.rest = skipped ++ behind) (closed : ∀ other, Separates other skipped) :
    cursor.Admits gap behind := by
  obtain ⟨rest, place⟩ := cursor
  simp only at left
  subst left
  have parted : next ⟨skipped ++ (gap ++ behind), place⟩ =
      next ⟨behind, (place.past skipped).past gap⟩ := by
    rw [next_append (closed _), next_append (parts.closed behind)]
  refine ⟨skipped, rfl, ?_⟩
  rw [tokens_congr parted, tokens_congr (next_append (closed behind) place)]
  exact gist_tokens behind _ _

/-- Where a gap may be put behind a token, it may be put there before the token is read. -/
theorem Admits.of_next {cursor stop : Cursor} {token : Token} (admits : stop.Admits gap behind)
    (parts : Parts gap) (read : cursor.next = (.ok token, stop)) (inner : token.kind ≠ .eof) :
    cursor.Admits gap behind := by
  obtain ⟨mid, left, same⟩ := admits
  obtain ⟨c, first, blank⟩ := parts.begins
  obtain ⟨more, rfl⟩ : ∃ more, gap = c :: more := by
    cases gap with
    | nil => cases first
    | cons d more =>
      cases first
      exact ⟨more, rfl⟩
  obtain ⟨front, split, readToo⟩ : ∃ front, cursor.rest = front ++ (mid ++ behind) ∧
      next ⟨front ++ (mid ++ c :: (more ++ behind)), cursor.location⟩ =
        (.ok token, ⟨mid ++ c :: (more ++ behind), stop.location⟩) :=
    next_cut read inner left blank
  refine ⟨front ++ mid, by rw [split, List.append_assoc], ?_⟩
  rw [List.append_assoc, List.cons_append, tokens_of_next readToo inner,
    tokens_of_next read inner, gist_map_cons, gist_map_cons]
  exact congrArg _ same

/-- Where a gap may be put behind the tokens read so far, it may be put there from the start. -/
theorem Admits.of_reaches {start cursor : Cursor} (admits : cursor.Admits gap behind)
    (parts : Parts gap) (reaches : Reaches start cursor) : start.Admits gap behind := by
  induction reaches with
  | here => exact admits
  | next _ read inner ih => exact ih (admits.of_next parts read inner)

end Cursor

/-- Whether the characters before and behind meet where a token begins or ends: reading the
whole source gives, at some point, a token that is not the end of the file and stands at the place
behind the characters before, or stops at this place. -/
def TokenEdge (before behind : List Char) : Prop :=
  ∃ cursor token stop, Cursor.Reaches ⟨before ++ behind, .start⟩ cursor ∧
    cursor.next = (.ok token, stop) ∧ token.kind ≠ .eof ∧
    (token.location = Location.start.past before ∨ stop.location = Location.start.past before)

/-- Two beginnings of a source that lead to the same place are the same. -/
theorem Location.eq_of_past_eq {source first second : List Char} (front : first <+: source)
    (frontToo : second <+: source) (same : start.past first = start.past second) :
    first = second := by
  have wlog {shorter longer : List Char} (within : shorter <+: longer)
      (same : start.past shorter = start.past longer) : shorter = longer := by
    obtain ⟨more, rfl⟩ := within
    rw [past_append] at same
    rcases empty_or_before_past (start.past shorter) more with rfl | forward
    · rw [List.append_nil]
    · rw [← same] at forward
      exact absurd forward (not_before_self _)
  rcases List.prefix_or_prefix_of_prefix front frontToo with within | within
  · exact wlog within same
  · exact (wlog within same.symm).symm

/-- Where the characters before have been passed, with the last of them skipped, the characters
behind are left. -/
theorem Cursor.StandsIn.left_eq {before behind skipped rest : List Char} {cursor : Cursor}
    (stands : cursor.StandsIn (before ++ behind)) (left : cursor.rest = skipped ++ rest)
    (place : cursor.location.past skipped = Location.start.past before) : rest = behind := by
  obtain ⟨passed, split, location⟩ := stands
  rw [left, ← List.append_assoc] at split
  rw [location, ← Location.past_append] at place
  have begins : passed ++ skipped <+: before ++ behind := by
    rw [split]
    exact List.prefix_append _ _
  have meets : passed ++ skipped = before :=
    Location.eq_of_past_eq begins (List.prefix_append _ _) place
  rw [meets, List.append_cancel_left_eq] at split
  exact split.symm

/-- At the edge of a token a gap may be put. -/
theorem TokenEdge.admits {before gap behind : List Char} (edge : TokenEdge before behind)
    (parts : Parts gap) : Cursor.Admits gap behind ⟨before ++ behind, .start⟩ := by
  obtain ⟨cursor, token, stop, reaches, read, inner, place⟩ := edge
  have source : Cursor.StandsIn (before ++ behind) ⟨before ++ behind, .start⟩ := ⟨[], rfl, rfl⟩
  rcases place with begins | ends
  · obtain ⟨skipped, rest, left, separates, plain, here⟩ := Cursor.exists_gap_of_next read
    obtain ⟨lexeme, rfl, some, stands, rfl, -⟩ := Cursor.exists_lexeme_of_token here inner
    have same : lexeme.text ++ stop.rest = behind := (reaches.standsIn source).left_eq left begins
    have closed : ∀ other, Separates other skipped :=
      fun other => separates.of_ne_nil (by simp [some])
    rw [same] at left
    exact (Cursor.admits_of_separates parts left closed).of_reaches parts reaches
  · have reached := reaches.next read inner
    have left : stop.rest = behind :=
      @Cursor.StandsIn.left_eq _ _ [] _ _ (reached.standsIn source) rfl ends
    exact (Cursor.admits_of_separates parts left fun _ => .nil).of_reaches parts reached

/-- Gaps tell nothing. Where a token of a source begins or ends, blanks and closed comments may be
put that begin with a blank: what reading the source tells is the same as before, whether all its
tokens can be read or not. -/
theorem tokenize_ignores_gaps {before gap behind : String}
    (edge : TokenEdge before.toList behind.toList) (parts : Parts gap.toList) :
    gist (tokenize (before ++ gap ++ behind)) = gist (tokenize (before ++ behind)) := by
  obtain ⟨front, split, same⟩ := edge.admits parts
  have meets : before.toList = front := List.append_cancel_right split
  subst meets
  have parted : Cursor.ofSource (before ++ gap ++ behind) =
      ⟨before.toList ++ (gap.toList ++ behind.toList), .start⟩ := by
    simp [Cursor.ofSource]
  have whole : Cursor.ofSource (before ++ behind) =
      ⟨before.toList ++ behind.toList, .start⟩ := by
    simp [Cursor.ofSource]
  rw [tokenize, tokenize, parted, whole]
  exact same

/-- Behind the mark `++` of `x+++'`, a line comment that holds a quote and a block comment that
closes late change nothing: the character constant at the end is still without its quote. -/
theorem tokenize_ignores_gaps_marks :
    TokenEdge "x++".toList "+'".toList ∧ Parts " //'\n/*/ */".toList ∧
      gist (tokenize "x++ //'\n/*/ */+'") = gist (tokenize "x+++'") ∧
      gist (tokenize "x+++'") = .error "Unterminated character literal" := by
  obtain ⟨name, mark, failed⟩ :
      Cursor.next ⟨['x', '+', '+', '+', '\''], .start⟩ =
        (.ok ⟨.name, some (.name "x"), .start⟩, ⟨['+', '+', '+', '\''], ⟨1, 2⟩⟩) ∧
      Cursor.next ⟨['+', '+', '+', '\''], ⟨1, 2⟩⟩ =
        (.ok ⟨.mark .increment, some (.spelling "++"), ⟨1, 2⟩⟩, ⟨['+', '\''], ⟨1, 4⟩⟩) ∧
      tokenize "x+++'" = .error ⟨.unclosedChar, ⟨1, 5⟩⟩ :=
    ⟨by cbv, by cbv, by cbv⟩
  have edge : TokenEdge "x++".toList "+'".toList :=
    ⟨_, _, _, .next .here name (by decide), mark, by decide, .inr rfl⟩
  have block : ∀ behind, Separates behind ['/', '*', '/', ' ', '*', '/'] := fun behind =>
    @Separates.block behind ['/', ' '] [] (by decide) .nil
  have line : ∀ behind, Separates behind ['/', '/', '\'', '\n', '/', '*', '/', ' ', '*', '/'] :=
    fun behind => @Separates.line behind ['\''] _ (by simp) (block behind)
  have parts : Parts " //'\n/*/ */".toList :=
    ⟨⟨' ', rfl, by decide⟩, fun behind => .blank (by decide) (line behind)⟩
  have parted : "x++ //'\n/*/ */+'" = "x++" ++ " //'\n/*/ */" ++ "+'" := by decide
  have whole : "x+++'" = "x++" ++ "+'" := by decide
  refine ⟨edge, parts, ?_, by rw [failed]; rfl⟩
  rw [parted, whole]
  exact tokenize_ignores_gaps edge parts

end Cpplet

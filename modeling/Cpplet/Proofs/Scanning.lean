import Cpplet.Proofs.Lexemes

/-!
# Scanning loses nothing

A source is a chain of gaps and lexemes. A gap is made of blanks and whole comments, a lexeme
follows the rules of its sort, and the place of a token is where the text before it ends. The
tokens of a source are exactly those of such a chain (`tokenize_eq_ok_iff`), so none of its
characters is lost and no token is made up.
-/

namespace Cpplet

namespace Trivia

/-- Blanks and whole comments, in front of what stands behind them. -/
inductive Separates (behind : List Char) : List Char → Prop where
  /-- Nothing at all. -/
  | nil : Separates behind []
  /-- A blank. -/
  | blank {c : Char} {rest : List Char} (isBlank : Text.isBlank c = true)
      (more : Separates behind rest) : Separates behind (c :: rest)
  /-- A line comment, through the line feed that ends it. -/
  | line {body rest : List Char} (inline : '\n' ∉ body) (more : Separates behind rest) :
      Separates behind ('/' :: '/' :: (body ++ '\n' :: rest))
  /-- A line comment that the end of the file ends. -/
  | lastLine {body : List Char} (inline : '\n' ∉ body) (last : behind = []) :
      Separates behind ('/' :: '/' :: body)
  /-- A block comment, through the closing that ends it. -/
  | block {body rest : List Char} (unclosed : ¬ ['*', '/'] <:+: body)
      (more : Separates behind rest) : Separates behind ('/' :: '*' :: (body ++ '*' :: '/' :: rest))

/-- A text begins with a blank or with the opening of a comment. -/
def Opens (text : List Char) : Prop :=
  (∃ c ∈ text.head?, Text.isBlank c = true) ∨ ['/', '/'] <+: text ∨ ['/', '*'] <+: text

/-- A line comment ends with the first line feed, or with the file. -/
theorem lineComment_cases (input : List Char) :
    (∃ body behind, '\n' ∉ body ∧ input = body ++ '\n' :: behind ∧
        lineComment input = body ++ ['\n']) ∨
      '\n' ∉ input ∧ lineComment input = input := by
  induction input with
  | nil => exact .inr ⟨List.not_mem_nil, rfl⟩
  | cons c rest ih =>
    by_cases feed : c = '\n'
    · subst feed
      exact .inl ⟨[], rest, List.not_mem_nil, rfl, rfl⟩
    · rw [lineComment, if_neg feed]
      rcases ih with ⟨body, behind, inline, rfl, taken⟩ | ⟨inline, taken⟩
      · refine .inl ⟨c :: body, behind, ?_, rfl, congrArg (c :: ·) taken⟩
        simp [inline, Ne.symm feed]
      · refine .inr ⟨?_, congrArg (c :: ·) taken⟩
        simp [inline, Ne.symm feed]

/-- A line comment goes up to its line feed. -/
theorem lineComment_append {body : List Char} (inline : '\n' ∉ body) (rest : List Char) :
    lineComment (body ++ '\n' :: rest) = body ++ ['\n'] := by
  induction body with
  | nil => rfl
  | cons c body ih =>
    rw [List.mem_cons, not_or] at inline
    obtain ⟨different, inline⟩ := inline
    rw [List.cons_append, lineComment, if_neg (Ne.symm different), ih inline]
    rfl

/-- A line comment without a line feed is all that is left. -/
theorem lineComment_eq_self {body : List Char} (inline : '\n' ∉ body) :
    lineComment body = body := by
  induction body with
  | nil => rfl
  | cons c body ih =>
    rw [List.mem_cons, not_or] at inline
    obtain ⟨different, inline⟩ := inline
    rw [lineComment, if_neg (Ne.symm different), ih inline]

/-- A block comment ends with the first closing. -/
theorem blockComment?_some {input text : List Char} (found : blockComment? input = some text) :
    ∃ body behind, ¬ ['*', '/'] <:+: body ∧ input = body ++ '*' :: '/' :: behind ∧
      text = body ++ ['*', '/'] := by
  fun_induction blockComment? input generalizing text with
  | case1 behind =>
    cases found
    exact ⟨[], behind, by simp, rfl, rfl⟩
  | case2 c rest other ih =>
    obtain ⟨text, inside, rfl⟩ := Option.map_eq_some_iff.mp found
    obtain ⟨body, behind, unclosed, rfl, rfl⟩ := ih inside
    refine ⟨c :: body, behind, ?_, rfl, rfl⟩
    intro closed
    rcases List.infix_cons_iff.mp closed with front | inner
    · -- A closing at the front would have ended the comment there.
      obtain ⟨tail, same⟩ := front
      cases same
      exact other _ rfl rfl
    · exact unclosed inner
  | case3 => cases found

/-- A block comment goes up to its first closing. -/
theorem blockComment?_append {body : List Char} (unclosed : ¬ ['*', '/'] <:+: body)
    (rest : List Char) :
    blockComment? (body ++ '*' :: '/' :: rest) = some (body ++ ['*', '/']) := by
  induction body with
  | nil => rfl
  | cons c body ih =>
    rw [List.infix_cons_iff, not_or] at unclosed
    rw [List.cons_append, blockComment?.eq_2, ih unclosed.2]
    · rfl
    · rintro tail rfl same
      apply unclosed.1
      cases body with
      | nil => cases same
      | cons next body =>
        cases same
        exact ⟨body, rfl⟩

/-- Nothing is skipped exactly where neither a blank nor a comment stands. -/
theorem Piece.of_eq_none {input : List Char} : Piece.of input = .none ↔ ¬ Opens input := by
  unfold Piece.of Opens
  split
  · simp
  · split <;> simp
  · rename_i c rest notLine notBlock
    have noLine : ¬ ['/', '/'] <+: c :: rest := by
      rintro ⟨tail, same⟩
      cases same
      exact notLine tail rfl rfl
    have noBlock : ¬ ['/', '*'] <+: c :: rest := by
      rintro ⟨tail, same⟩
      cases same
      exact notBlock tail rfl rfl
    simp [noLine, noBlock]
  · simp

/-- What is skipped at once begins the text, and may stand before a gap that follows it. -/
theorem Piece.skipped_of {input text : List Char} (found : Piece.of input = .skipped text) :
    text ≠ [] ∧ ∃ rest, input = text ++ rest ∧ ∀ gap behind, rest = gap ++ behind →
      Separates behind gap → Separates behind (text ++ gap) := by
  unfold Piece.of at found
  split at found
  · rename_i rest
    cases found
    refine ⟨by simp, ?_⟩
    rcases lineComment_cases rest with ⟨body, after, inline, rfl, taken⟩ | ⟨inline, taken⟩
    · refine ⟨after, by simp [taken], ?_⟩
      intro gap behind _ more
      simpa [taken] using Separates.line inline more
    · refine ⟨[], by simp [taken], ?_⟩
      intro gap behind nothing _
      obtain ⟨rfl, rfl⟩ := List.append_eq_nil_iff.mp nothing.symm
      simpa [taken] using Separates.lastLine inline rfl
  · split at found
    · rename_i rest text closed
      cases found
      obtain ⟨body, after, unclosed, rfl, rfl⟩ := blockComment?_some closed
      refine ⟨by simp, after, by simp, ?_⟩
      intro gap behind _ more
      simpa using Separates.block unclosed more
    · cases found
  · rename_i c rest _ _
    split at found
    · rename_i isBlank
      cases found
      exact ⟨by simp, rest, rfl, fun gap behind _ more => .blank isBlank more⟩
    · cases found
  · cases found

/-- What is skipped is a gap, and neither a blank nor a comment stands behind it. -/
theorem separates_of_skipWithin {rounds input gap : List Char}
    (enough : input.length ≤ rounds.length) (read : skipWithin rounds input = .ok gap) :
    ∃ behind, input = gap ++ behind ∧ Separates behind gap ∧ ¬ Opens behind := by
  induction rounds generalizing input gap with
  | nil =>
    obtain rfl : input = [] := List.length_eq_zero_iff.mp (Nat.le_zero.mp enough)
    cases read
    exact ⟨[], rfl, .nil, Piece.of_eq_none.mp rfl⟩
  | cons round rounds ih =>
    unfold skipWithin at read
    split at read
    · rename_i nothing
      cases read
      exact ⟨input, rfl, .nil, Piece.of_eq_none.mp nothing⟩
    · cases read
    · rename_i text found
      obtain ⟨some, rest, rfl, extend⟩ := Piece.skipped_of found
      rw [List.drop_left] at read
      cases skipped : skipWithin rounds rest with
      | error misfit => simp [skipped] at read
      | ok more =>
        simp only [skipped, Except.ok.injEq] at read
        subst read
        have fewer : rest.length ≤ rounds.length := by
          have step : 0 < text.length := List.length_pos_iff.mpr some
          simp only [List.length_append, List.length_cons] at enough
          omega
        obtain ⟨behind, same, separates, plain⟩ := ih fewer skipped
        exact ⟨behind, by simp [same], extend more behind same separates, plain⟩

/-- The first blank or comment of a gap is skipped at once, and a shorter gap is left. -/
theorem Piece.of_separates {behind gap : List Char} (separates : Separates behind gap)
    (some : gap ≠ []) :
    ∃ text rest, text ≠ [] ∧ gap = text ++ rest ∧ Separates behind rest ∧
      Piece.of (gap ++ behind) = .skipped text := by
  cases separates with
  | nil => contradiction
  | @blank c rest isBlank more =>
    have different : c ≠ '/' := by
      rintro rfl
      exact absurd isBlank (by decide)
    refine ⟨[c], rest, by simp, rfl, more, ?_⟩
    simp [Piece.of, different, isBlank]
  | @line body rest inline more =>
    refine ⟨'/' :: '/' :: body ++ ['\n'], rest, by simp, by simp, more, ?_⟩
    simp [Piece.of, lineComment_append inline]
  | @lastLine body inline last =>
    subst last
    refine ⟨'/' :: '/' :: body, [], by simp, by simp, .nil, ?_⟩
    simp [Piece.of, lineComment_eq_self inline]
  | @block body rest unclosed more =>
    refine ⟨'/' :: '*' :: body ++ ['*', '/'], rest, by simp, by simp, more, ?_⟩
    simp [Piece.of, blockComment?_append unclosed]

/-- A gap that neither a blank nor a comment prolongs is skipped. -/
theorem skipWithin_of_separates {rounds behind gap : List Char}
    (enough : gap.length ≤ rounds.length) (separates : Separates behind gap)
    (plain : ¬ Opens behind) : skipWithin rounds (gap ++ behind) = .ok gap := by
  induction rounds generalizing gap with
  | nil =>
    obtain rfl : gap = [] := List.length_eq_zero_iff.mp (Nat.le_zero.mp enough)
    unfold skipWithin
    simp only [List.nil_append, Piece.of_eq_none.mpr plain]
  | cons round rounds ih =>
    by_cases nothing : gap = []
    · subst nothing
      unfold skipWithin
      simp only [List.nil_append, Piece.of_eq_none.mpr plain]
    · obtain ⟨text, rest, some, rfl, more, found⟩ := Piece.of_separates separates nothing
      have fewer : rest.length ≤ rounds.length := by
        have step : 0 < text.length := List.length_pos_iff.mpr some
        simp only [List.length_append, List.length_cons] at enough
        omega
      have skipped := ih fewer more
      unfold skipWithin
      simp only [found]
      rw [List.append_assoc, List.drop_left, skipped]

end Trivia

open Trivia

/-- A text, from a place on, as a chain of gaps and lexemes with the tokens they make. -/
inductive Scanned : Location → List Char → List Token → Prop where
  /-- A gap up to the end of the file. -/
  | eof {place : Location} {gap : List Char} (separates : Separates [] gap) :
      Scanned place gap [.eof (place.past gap)]
  /-- A gap, a lexeme and what stands behind it. -/
  | token {place : Location} {gap behind : List Char} {lexeme : Lexeme} {tokens : List Token}
      (separates : Separates (lexeme.text ++ behind) gap)
      (plain : ¬ Opens (lexeme.text ++ behind)) (some : lexeme.text ≠ [])
      (stands : lexeme.Stands behind)
      (rest : Scanned ((place.past gap).past lexeme.text) behind tokens) :
      Scanned place (gap ++ (lexeme.text ++ behind))
        (⟨lexeme.kind, lexeme.value, place.past gap⟩ :: tokens)

namespace Cursor

/-- A gap at a cursor is skipped, up to the token behind it. -/
theorem next_of_separates {gap behind : List Char} (place : Location)
    (separates : Separates behind gap) (plain : ¬ Opens behind) :
    next ⟨gap ++ behind, place⟩ = token ⟨behind, place.past gap⟩ := by
  have enough : gap.length ≤ (gap ++ behind).length := by simp
  have skipped : skip (gap ++ behind) = .ok gap := skipWithin_of_separates enough separates plain
  simp only [next, skipped, past, List.drop_left]

/-- A lexeme at a cursor is read. -/
theorem token_of_stands {behind : List Char} {lexeme : Lexeme} (place : Location)
    (some : lexeme.text ≠ []) (stands : lexeme.Stands behind) :
    token ⟨lexeme.text ++ behind, place⟩ =
      (.ok ⟨lexeme.kind, lexeme.value, place⟩, ⟨behind, place.past lexeme.text⟩) := by
  obtain ⟨c, others, spelled⟩ := List.exists_cons_of_ne_nil some
  have same : c :: (others ++ behind) = lexeme.text ++ behind := by rw [spelled, List.cons_append]
  have read := Lexeme.front_of_stands stands same
  rw [← same]
  simp only [token, read, past]
  rw [same, List.drop_left]

/-- The next token is read behind a gap that nothing prolongs. -/
theorem exists_gap_of_next {cursor behind : Cursor} {token : Token}
    (read : cursor.next = (.ok token, behind)) :
    ∃ gap rest, cursor.rest = gap ++ rest ∧ Separates rest gap ∧ ¬ Opens rest ∧
      Cursor.token ⟨rest, cursor.location.past gap⟩ = (.ok token, behind) := by
  unfold next at read
  split at read
  · rename_i gap skipped
    obtain ⟨rest, split, separates, plain⟩ := separates_of_skipWithin (Nat.le_refl _) skipped
    have here : cursor.past gap = ⟨rest, cursor.location.past gap⟩ := by
      rw [past, split, List.drop_left]
    rw [here] at read
    exact ⟨gap, rest, split, separates, plain, read⟩
  · simp [misread] at read

/-- A token that is not the end of the file is what a lexeme at the cursor denotes. -/
theorem exists_lexeme_of_token {rest : List Char} {place : Location} {behind : Cursor}
    {token : Token} (read : Cursor.token ⟨rest, place⟩ = (.ok token, behind))
    (inner : token.kind ≠ .eof) :
    ∃ lexeme : Lexeme, rest = lexeme.text ++ behind.rest ∧ lexeme.text ≠ [] ∧
      lexeme.Stands behind.rest ∧ token = ⟨lexeme.kind, lexeme.value, place⟩ ∧
      behind.location = place.past lexeme.text := by
  unfold Cursor.token at read
  split at read
  · cases read
    exact absurd rfl inner
  · rename_i c others first
    simp only at first
    subst first
    split at read
    · rename_i lexeme found
      obtain ⟨some, -⟩ := Lexeme.front_text_kind found
      obtain ⟨last, split, stands⟩ := Lexeme.stands_of_front found
      rw [split] at read ⊢
      cases read
      have left : (Cursor.past ⟨lexeme.text ++ last, place⟩ lexeme.text).rest = last := by
        rw [past, List.drop_left]
      rw [left]
      exact ⟨lexeme, rfl, some, stands, rfl, rfl⟩
    · simp [misread] at read

/-- The next token stands behind a gap: the end of the file ends the chain, and any other token
goes before the chain behind it. -/
theorem scanned_of_next {cursor behind : Cursor} {token : Token}
    (read : cursor.next = (.ok token, behind)) :
    (token.kind = .eof → Scanned cursor.location cursor.rest [token]) ∧
      (token.kind ≠ .eof → ∀ tokens, Scanned behind.location behind.rest tokens →
        Scanned cursor.location cursor.rest (token :: tokens)) := by
  obtain ⟨gap, rest, split, separates, plain, here⟩ := exists_gap_of_next read
  rw [split]
  constructor
  · intro final
    rcases token_ok here with ⟨nothing, same, -⟩ | ⟨-, -, inner, -⟩
    · simp only at nothing same
      subst nothing
      rw [same, List.append_nil]
      exact .eof separates
    · exact absurd final inner
  · intro inner tokens chain
    obtain ⟨lexeme, rfl, some, stands, rfl, place⟩ := exists_lexeme_of_token here inner
    rw [place] at chain
    exact .token separates plain some stands chain

end Cursor

/-- What is read token after token is a chain of gaps and lexemes. -/
theorem scanned_of_feeds {cursor : Cursor} {feed : Feed} {tokens : List Token}
    (feeds : Feeds cursor (.ok feed)) (listed : feed.batch = .ok tokens) :
    Scanned cursor.location cursor.rest tokens := by
  generalize result : Except.ok feed = found at feeds
  induction feeds generalizing feed tokens with
  | fault read => cases result
  | last read inner rest =>
    cases result
    cases listed
  | eof read final =>
    cases result
    cases listed
    rw [← Cursor.eq_eof_of_kind read final]
    exact (Cursor.scanned_of_next read).1 final
  | @more cursor behind token feed read inner rest ih =>
    cases result
    rw [Feed.batch] at listed
    cases others : feed.batch with
    | error error =>
      rw [others] at listed
      cases listed
    | ok tokens =>
      rw [others] at listed
      cases listed
      exact (Cursor.scanned_of_next read).2 inner tokens (ih others rfl)

/-- A chain of gaps and lexemes is read token after token. -/
theorem feeds_of_scanned {place : Location} {text : List Char} {tokens : List Token}
    (scanned : Scanned place text tokens) :
    ∃ feed, Feeds ⟨text, place⟩ (.ok feed) ∧ feed.batch = .ok tokens := by
  induction scanned with
  | @eof place gap separates =>
    have read := Cursor.next_of_separates place separates (Piece.of_eq_none.mp rfl)
    rw [List.append_nil] at read
    exact ⟨_, .eof read rfl, rfl⟩
  | @token place gap behind lexeme tokens separates plain some stands rest ih =>
    obtain ⟨feed, feeds, listed⟩ := ih
    have read := Cursor.next_of_separates place separates plain
    rw [Cursor.token_of_stands (place.past gap) some stands] at read
    refine ⟨_, .more read ?_ feeds, by rw [Feed.batch, listed]; rfl⟩
    cases stands <;> simp

/-- The tokens of a source are those of a chain of gaps and lexemes that makes it up. -/
theorem tokenize_eq_ok_iff {source : String} {tokens : List Token} :
    tokenize source = .ok tokens ↔ Scanned .start source.toList tokens := by
  constructor
  · intro listed
    have feeds := Feed.feeds_ofCursor (.ofSource source)
    rw [Feed.tokenize_eq_batchOf] at listed
    cases found : Feed.ofCursor (.ofSource source) with
    | error fault =>
      rw [found] at listed
      cases listed
    | ok feed =>
      rw [found] at listed feeds
      exact scanned_of_feeds feeds listed
  · intro scanned
    obtain ⟨feed, feeds, listed⟩ := feeds_of_scanned scanned
    exact (Feed.drain_of_feeds feeds (Nat.le_refl _)).trans listed

namespace Scanned

/-- A chain ends with the end of the file, behind the whole text. -/
theorem getLast? {place : Location} {text : List Char} {tokens : List Token}
    (scanned : Scanned place text tokens) :
    tokens.getLast? = some (.eof (place.past text)) := by
  induction scanned with
  | eof separates => rfl
  | @token place gap behind lexeme tokens separates plain some stands rest ih =>
    rw [Location.past_append, Location.past_append, List.getLast?_cons, ih]
    rfl

/-- The tokens of a chain stand behind one another. -/
theorem ordered {place : Location} {text : List Char} {tokens : List Token}
    (scanned : Scanned place text tokens) :
    tokens.Pairwise fun first second => first.location.Before second.location := by
  obtain ⟨feed, feeds, listed⟩ := feeds_of_scanned scanned
  rw [← Feed.tokens_of_batch listed]
  exact (Feed.ordered_of_feeds feeds).2

end Scanned

/-- Scanning loses and invents nothing. The text of a source whose tokens can be read is a chain
of gaps and lexemes: the gaps hold blanks and whole comments only, and each token is what its
lexeme denotes, at the place of the lexeme's first character. The end of the file comes last,
behind all characters, and the places increase from token to token. -/
theorem tokenize_loses_nothing {source : String} {tokens : List Token}
    (listed : tokenize source = .ok tokens) :
    Scanned .start source.toList tokens ∧
      tokens.getLast? = some (.eof (Location.start.past source.toList)) ∧
      tokens.Pairwise fun first second => first.location.Before second.location := by
  have scanned := tokenize_eq_ok_iff.mp listed
  exact ⟨scanned, scanned.getLast?, scanned.ordered⟩

/-- The source `x/*/ */<= 7//`, where the comment closes late, the mark is the longer one, and a
line comment runs to the end of the file. -/
theorem tokenize_loses_nothing_comment :
    ∃ tokens, tokenize "x/*/ */<= 7//" = .ok tokens ∧ tokens.length = 4 ∧
      Scanned .start "x/*/ */<= 7//".toList tokens ∧
      tokens.getLast? = some (.eof (Location.start.past "x/*/ */<= 7//".toList)) := by
  have listed : tokenize "x/*/ */<= 7//" = .ok
      [⟨.name, some (.name "x"), ⟨1, 1⟩⟩, ⟨.mark .lessEqual, some (.spelling "<="), ⟨1, 8⟩⟩,
        ⟨.integer, some (.integer 7), ⟨1, 11⟩⟩, .eof ⟨1, 14⟩] := by
    cbv
  obtain ⟨scanned, last, -⟩ := tokenize_loses_nothing listed
  exact ⟨_, listed, rfl, scanned, last⟩

end Cpplet

import Cpplet.Proofs.Acceptance

/-!
# Syntax errors stand at the first impossible token

The tokens before a syntax error begin a program, and with the token where it stands they begin
none, unless this token names a type: behind a type the grammar looks for a parenthesis, so that
a type may be refused for what follows it.

If the tokens with the refused one among them did begin a program, then a run over that program
with a large budget would accept it. But up to the refused token, which it does not pass, the run
over the source cannot be told apart from that run.
-/

namespace Cpplet

namespace Feed

/-- Whether looking ahead for tokens that pass tests goes on past a token behind others. -/
inductive SeesPast (token : Token) : List Token → List (Token → Bool) → Prop where
  /-- The token passes its test, which is not the last. -/
  | here {test next : Token → Bool} {tests : List (Token → Bool)} (passes : test token = true) :
      SeesPast token [] (test :: next :: tests)
  /-- A token before it passes its test. -/
  | behind {first : Token} {front : List Token} {test : Token → Bool}
      {tests : List (Token → Bool)} (passes : test first = true)
      (later : SeesPast token front tests) : SeesPast token (first :: front) (test :: tests)

/-- Looking ahead sees the same in feeds with the same lookahead behind the same tokens, unless it
goes on past this lookahead. -/
theorem startsWith_append {left right : Feed} (same : right.current = left.current)
    (front : List Token) (tests : List (Token → Bool)) :
    (front ++ right).startsWith tests = (front ++ left).startsWith tests ∨
      SeesPast left.current front tests := by
  induction front generalizing tests with
  | nil =>
    match tests with
    | [] => exact .inl rfl
    | [test] => exact .inl (congrArg test same)
    | test :: next :: tests =>
      by_cases passes : test left.current = true
      · exact .inr (.here passes)
      · rw [nil_append, nil_append]
        exact .inl (by simp [startsWith, same, passes])
  | cons token front ih =>
    match tests with
    | [] => exact .inl rfl
    | [test] => exact .inl rfl
    | test :: next :: tests =>
      by_cases passes : test token = true
      · rcases ih (next :: tests) with seen | later
        · exact .inl (by simp [startsWith, seen])
        · exact .inr (.behind passes later)
      · exact .inl (by simp [startsWith, passes])

end Feed

namespace Comparison

/-- Comparing a run with another, where the feeds part behind a token that both have. -/
def apart (left right : Feed) (same : right.current = left.current) (inner : left.kind ≠ .eof) :
    Comparison where
  like feed other := ∃ front : List Token, feed = front ++ left ∧ other = front ++ right
  bound := left.size
  careless := True
  current := by
    rintro _ _ ⟨front, rfl, rfl⟩
    cases front with
    | nil => exact same
    | cons token front => rfl
  next := by
    rintro _ _ rest ⟨front, rfl, rfl⟩ moved
    cases front with
    | nil =>
      have whole := Feed.eq_more_of_next moved inner
      rw [Feed.nil_append] at whole
      rw [whole]
      exact .inl (Nat.lt_succ_self _)
    | cons token front =>
      cases moved
      exact .inr ⟨front ++ right, rfl, front, rfl, rfl⟩
  fault _ _ := .inl trivial

variable {left right : Feed} {same : right.current = left.current} {inner : left.kind ≠ .eof}

/-- The token where the feeds part is the last that is compared. -/
theorem fleeting_apart : (apart left right same inner).Fleeting left := by
  unfold Fleeting
  cases moved : left.next with
  | error fault => trivial
  | ok rest =>
    have whole := Feed.eq_more_of_next moved inner
    show rest.size < left.size
    rw [whole]
    exact Nat.lt_succ_self _

/-- Feeds that part behind a token which names no type are told apart by looking ahead only where
this token is passed next. -/
theorem discreet_apart (noType : left.kind.isType = false) :
    (apart left right same inner).Discreet where
  cast := by
    rintro _ _ ⟨front, rfl, rfl⟩
    refine (Feed.startsWith_append same front _).imp_right fun past => ?_
    cases past with
    | here passes => exact ⟨of_decide_eq_true passes, fleeting_apart⟩
    | behind _ later =>
      cases later with
      | here passes => exact absurd (noType.symm.trans passes) (by decide)
      | behind _ later => nomatch later
  call := by
    rintro _ _ ⟨front, rfl, rfl⟩
    refine (Feed.startsWith_append same front _).resolve_right fun past => ?_
    cases past with
    | here passes => exact absurd (noType.symm.trans passes) (by decide)
    | behind _ later => nomatch later
  assignment := by
    rintro _ _ ⟨front, rfl, rfl⟩
    refine (Feed.startsWith_append same front _).imp_right fun past => ?_
    cases past with
    | here passes => exact ⟨of_decide_eq_true passes, fleeting_apart⟩
    | behind _ later => nomatch later
  entry := by
    rintro _ _ ⟨front, rfl, rfl⟩
    refine (Feed.startsWith_append same front _).imp_right fun past => ?_
    cases past with
    | here passes =>
      have typed : left.kind = .keyword .intWord := of_decide_eq_true passes
      rw [typed] at noType
      cases noType
    | behind first later =>
      cases later with
      | here passes =>
        have named := (Bool.and_eq_true_iff.mp passes).1
        exact ⟨of_decide_eq_true first, left, rfl, of_decide_eq_true named, fleeting_apart⟩
      | behind _ later => nomatch later

end Comparison

open Grammar

/-- A token that names no type and is refused behind tokens that begin a program does not begin
one with them. -/
theorem not_opens_of_rejected {front : List Token} {stop : Feed} {error : SyntaxError}
    {budget : Nat}
    (rejected : wholeProgram budget (front ++ stop) = .rejected (.grammatical error) stop)
    (shallow : error.breach.isTooDeep = false) (noType : stop.kind.isType = false)
    (inner : stop.kind ≠ .eof) :
    ¬ Language.Opens ProgramWritten (front ++ [stop.current]) := by
  rintro ⟨more, program, writes⟩
  obtain ⟨normal, writesNormal, settled⟩ := exists_settled writes
  obtain ⟨enough, reads⟩ := eventually_wholeProgram writesNormal settled
  let right : Feed := .more stop.current (more ++ Feed.eof stop.current.location)
  have accepted : wholeProgram (max budget enough) (front ++ right) =
      .accepted normal (.eof stop.current.location) := by
    have whole := reads _ (Nat.le_max_right budget enough) stop.current.location
    rwa [Feed.append_append, Feed.append_append] at whole
  let comparison := Comparison.apart stop right rfl inner
  have follows : comparison.Follows (wholeProgram budget) (wholeProgram (max budget enough)) :=
    follows_wholeProgram (Comparison.discreet_apart noType) (Nat.le_max_left budget enough)
  have agree := follows.agree (front ++ stop) (front ++ right) ⟨front, rfl, rfl⟩
  rw [rejected, accepted] at agree
  rcases agree with (gone | tooDeep) | parted
  · exact Nat.lt_irrefl _ gone
  · exact absurd (shallow.symm.trans tooDeep) (by decide)
  · exact parted

/-- No two tokens of a source stand at one place. -/
theorem Feed.index_unique {cursor : Cursor} {feed : Feed} (read : ofCursor cursor = .ok feed)
    {i j : Nat} {first second : Token} (left : feed.tokens[i]? = some first)
    (right : feed.tokens[j]? = some second) (same : first.location = second.location) : i = j := by
  have ordered := List.pairwise_iff_getElem.mp (ordered_of_feeds (read ▸ feeds_ofCursor cursor)).2
  obtain ⟨inLeft, rfl⟩ := List.getElem?_eq_some_iff.mp left
  obtain ⟨inRight, rfl⟩ := List.getElem?_eq_some_iff.mp right
  rcases Nat.lt_trichotomy i j with less | equal | greater
  · exact absurd (same ▸ ordered i j inLeft inRight less) (Location.not_before_self _)
  · exact equal
  · exact absurd (same ▸ ordered j i inRight inLeft greater) (Location.not_before_self _)

/-- Syntax errors stand at the first impossible token. If a source breaks the grammar, other than
by nesting too deeply, then exactly one of its tokens stands at the error. The tokens before it
begin a program. With this token they begin none, unless it names a type; and if it is the end of
the file, then the tokens before it are no program. -/
theorem error_at_first_impossible {source : String} {error : SyntaxError}
    (failed : parse source = .error (.grammatical error))
    (shallow : error.breach.isTooDeep = false) :
    ∃ feed, Feed.ofCursor (.ofSource source) = .ok feed ∧
      (∀ tokens, tokenize source = .ok tokens → feed.tokens = tokens) ∧
      ∃ k token, feed.tokens[k]? = some token ∧ token.location = error.location ∧
        (∀ j other, feed.tokens[j]? = some other → other.location = error.location → j = k) ∧
        Language.Opens ProgramWritten (feed.tokens.take k) ∧
        (token.kind.isType = false → token.kind ≠ .eof →
          ¬ Language.Opens ProgramWritten (feed.tokens.take (k + 1))) ∧
        (token.kind = .eof → ∀ program, ¬ ProgramWritten (feed.tokens.take k) program) := by
  rcases parse_error failed with ⟨fault, -, other⟩ | ⟨front, stop, read, rejected, opens, bears⟩
  · cases other
  · obtain ⟨behind, tokens⟩ := stop.tokens_eq_current_cons
    have listed : (front ++ stop).tokens = front ++ stop.current :: behind := by
      rw [Feed.tokens_append, tokens]
    have found : (front ++ stop).tokens[front.length]? = some stop.current := by
      rw [listed, List.getElem?_append_right (Nat.le_refl _), Nat.sub_self]
      rfl
    have before : (front ++ stop).tokens.take front.length = front := by
      rw [listed, List.take_left]
    have including : (front ++ stop).tokens.take (front.length + 1) = front ++ [stop.current] := by
      rw [listed, List.take_length_add_append]
      rfl
    refine ⟨front ++ stop, read, ?_, front.length, stop.current, found, bears.symm, ?_, ?_, ?_, ?_⟩
    · intro tokens whole
      rw [Feed.tokenize_eq_batchOf, read] at whole
      exact Feed.tokens_of_batch whole
    · intro j other present same
      exact Feed.index_unique read present found (same.trans bears)
    · rw [before]
      exact opens
    · rw [including]
      exact not_opens_of_rejected rejected shallow
    · intro final program
      have whole := (Feed.proper_ofCursor read).rest.eq_eof final
      rw [before]
      rw [whole] at rejected
      exact not_written_of_rejected rejected shallow program

/-- In `int x=;@`, which cannot be read to its end, the semicolon is the first impossible token. -/
theorem error_at_first_impossible_noValue :
    parse "int x=;@" = .error (.grammatical
        ⟨.unexpected .expression ⟨.mark .semicolon, some (.spelling ";"), ⟨1, 7⟩⟩, ⟨1, 7⟩⟩) ∧
      Language.Opens ProgramWritten
        [⟨.keyword .intWord, some (.spelling "int"), ⟨1, 1⟩⟩, ⟨.name, some (.name "x"), ⟨1, 5⟩⟩,
          ⟨.mark .assign, some (.spelling "="), ⟨1, 6⟩⟩] ∧
      ¬ Language.Opens ProgramWritten
        [⟨.keyword .intWord, some (.spelling "int"), ⟨1, 1⟩⟩, ⟨.name, some (.name "x"), ⟨1, 5⟩⟩,
          ⟨.mark .assign, some (.spelling "="), ⟨1, 6⟩⟩,
          ⟨.mark .semicolon, some (.spelling ";"), ⟨1, 7⟩⟩] := by
  have ⟨listed, failed⟩ :
      (Feed.ofCursor (.ofSource "int x=;@")).map Feed.tokens = .ok
        [⟨.keyword .intWord, some (.spelling "int"), ⟨1, 1⟩⟩, ⟨.name, some (.name "x"), ⟨1, 5⟩⟩,
          ⟨.mark .assign, some (.spelling "="), ⟨1, 6⟩⟩,
          ⟨.mark .semicolon, some (.spelling ";"), ⟨1, 7⟩⟩] ∧
      parse "int x=;@" = .error (.grammatical
        ⟨.unexpected .expression ⟨.mark .semicolon, some (.spelling ";"), ⟨1, 7⟩⟩, ⟨1, 7⟩⟩) :=
    ⟨by cbv, by cbv⟩
  obtain ⟨feed, read, -, k, token, found, -, unique, opens, impossible, -⟩ :=
    error_at_first_impossible failed rfl
  rw [read] at listed
  rw [Except.ok.inj listed] at found unique opens impossible
  obtain rfl : 3 = k := unique 3 _ rfl rfl
  cases found
  exact ⟨failed, opens, impossible rfl (by decide)⟩

end Cpplet

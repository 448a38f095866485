import Cpplet.Proofs.Agreement
import Cpplet.Proofs.Completeness
import Cpplet.Proofs.Following

/-!
# The parser accepts its grammar

A program that is parsed is written by the tokens of its source, and no other program is; a
source that breaks the grammar is written by no program. The first half is what reading says of an
accepted source. For the second, a program that the tokens write is read with a large budget, and
what a run with a large budget does a run with a small one does too, unless it gives up nesting.
-/

namespace Cpplet

/-- Comparing a run with another over the same feed, to the end. -/
def Comparison.same : Comparison where
  like feed other := other = feed
  bound := 0
  careless := False
  current := by
    rintro feed _ rfl
    rfl
  next := by
    rintro feed _ rest rfl moved
    exact .inr ⟨rest, moved, rfl⟩
  fault := by
    rintro feed _ fault rfl stuck
    exact .inr stuck

/-- One feed is not told apart from itself. -/
theorem Comparison.discreet_same : Comparison.same.Discreet where
  cast := by
    rintro feed _ rfl
    exact .inl rfl
  call := by
    rintro feed _ rfl
    rfl
  assignment := by
    rintro feed _ rfl
    exact .inl rfl
  entry := by
    rintro feed _ rfl
    exact .inl rfl

/-- Whether an outcome gives up nesting. -/
def Outcome.IsTooDeep {α : Type} (outcome : Outcome α) : Prop :=
  ∃ (error : SyntaxError) (stop : Feed),
    outcome = .rejected (.grammatical error) stop ∧ error.breach.isTooDeep = true

/-- A run that is lost before its end has given up nesting. -/
theorem Comparison.isTooDeep_of_lost {α : Type} {outcome : Outcome α}
    (lost : Comparison.same.Lost outcome) : outcome.IsTooDeep := by
  cases outcome with
  | accepted value rest => exact absurd lost (Nat.not_lt_zero _)
  | rejected error stop =>
    rcases lost with gone | excused
    · exact absurd gone (Nat.not_lt_zero _)
    · cases error with
      | lexical error => exact excused.elim
      | grammatical error => exact ⟨error, stop, rfl, excused⟩

/-- Outcomes that are the same on one feed are equal. -/
theorem Comparison.eq_of_match {α : Type} {outcome other : Outcome α}
    (same : Comparison.same.Match outcome other) : other = outcome := by
  cases outcome with
  | accepted value rest =>
    cases other with
    | rejected error stop => exact same.elim
    | accepted found behind =>
      obtain ⟨rfl, rfl⟩ := same
      rfl
  | rejected error stop =>
    cases other with
    | accepted value rest => exact same.elim
    | rejected found behind =>
      obtain ⟨rfl, rfl⟩ := same
      rfl

/-- A parser that follows another over the same feed does the same, unless the other gives up
nesting. -/
theorem Comparison.eq_of_follows {α : Type} {leader follower : Parser α}
    (follows : Comparison.same.Follows leader follower) (feed : Feed) :
    (leader feed).IsTooDeep ∨ follower feed = leader feed := by
  rcases follows.agree feed feed rfl with lost | same
  · exact .inl (isTooDeep_of_lost lost)
  · exact .inr (eq_of_match same)

namespace Grammar

/-- What the tokens of a whole file write is read from them, unless nesting is given up. -/
theorem wholeProgram_of_written {tokens : List Token} {tree : Program}
    (writes : ProgramWritten tokens tree) (settled : tree.Settled) (budget : Nat)
    (location : Location) :
    (wholeProgram budget (tokens ++ Feed.eof location)).IsTooDeep ∨
      wholeProgram budget (tokens ++ Feed.eof location) = .accepted tree (.eof location) := by
  obtain ⟨enough, reads⟩ := eventually_wholeProgram writes settled
  have follows := follows_wholeProgram Comparison.discreet_same (Nat.le_max_left budget enough)
  rcases Comparison.eq_of_follows follows (tokens ++ Feed.eof location) with tooDeep | same
  · exact .inl tooDeep
  · rw [reads _ (Nat.le_max_right budget enough)] at same
    exact .inr same.symm

/-- What is read from the tokens of a whole file is the only settled program that they write. -/
theorem eq_of_wholeProgram {budget : Nat} {tokens : List Token} {location : Location}
    {tree other : Program} {rest : Feed}
    (accepted : wholeProgram budget (tokens ++ Feed.eof location) = .accepted tree rest)
    (writes : ProgramWritten tokens other) (settled : other.Settled) : other = tree := by
  rcases wholeProgram_of_written writes settled budget location with ⟨_, _, same, _⟩ | same
  · rw [accepted] at same
    cases same
  · rw [accepted] at same
    cases same
    rfl

/-- The tokens of a whole file that is refused, other than for its nesting, write no program. -/
theorem not_written_of_rejected {budget : Nat} {tokens : List Token} {location : Location}
    {error : SyntaxError} {stop : Feed}
    (rejected : wholeProgram budget (tokens ++ Feed.eof location) =
      .rejected (.grammatical error) stop)
    (shallow : error.breach.isTooDeep = false) (program : Program) :
    ¬ ProgramWritten tokens program := by
  intro writes
  obtain ⟨normal, writesNormal, settled⟩ := exists_settled writes
  rcases wholeProgram_of_written writesNormal settled budget location with
    ⟨found, _, given, tooDeep⟩ | accepted
  · rw [rejected] at given
    cases given
    rw [shallow] at tooDeep
    cases tooDeep
  · rw [rejected] at accepted
    cases accepted

end Grammar

open Grammar

/-- The feed of a source that can be listed has the end of the file behind its tokens. -/
theorem feed_of_tokenize {source : String} {tokens : List Token}
    (listed : tokenize source = .ok tokens) :
    ∃ (body : List Token) (location : Location),
      Feed.ofCursor (.ofSource source) = .ok (body ++ Feed.eof location) ∧
        tokens = body ++ [.eof location] := by
  rw [Feed.tokenize_eq_batchOf] at listed
  cases read : Feed.ofCursor (.ofSource source) with
  | error fault =>
    rw [read] at listed
    cases listed
  | ok feed =>
    rw [read] at listed
    obtain ⟨body, location, rfl, same⟩ := Feed.eq_append_of_batch listed
    exact ⟨body, location, rfl, same⟩

/-- The parser accepts exactly its grammar. Of a source whose tokens can all be read, a program
that is parsed is written by the tokens before the end of the file, and it is the only settled
program that they write; and if the grammar is broken, other than by nesting too deeply, then they
write no program. -/
theorem parse_accepts_grammar {source : String} {tokens : List Token}
    (listed : tokenize source = .ok tokens) :
    ∃ (body : List Token) (location : Location), tokens = body ++ [.eof location] ∧
      (∀ program, parse source = .ok program →
        ProgramWritten body program ∧ program.Settled ∧
          ∀ other, ProgramWritten body other → other.Settled → other = program) ∧
      (∀ error, parse source = .error (.grammatical error) → error.breach.isTooDeep = false →
        ∀ program, ¬ ProgramWritten body program) := by
  obtain ⟨body, location, read, same⟩ := feed_of_tokenize listed
  refine ⟨body, location, same, ?_, ?_⟩
  · intro program parsed
    obtain ⟨whole, _, readWhole, accepted, writes⟩ := parse_ok parsed
    rw [read] at readWhole
    obtain rfl : body = whole := Feed.append_eof_inj (Except.ok.inj readWhole)
    have unique : ∀ other, ProgramWritten body other → other.Settled → other = program :=
      fun other writesOther settled => eq_of_wholeProgram accepted writesOther settled
    obtain ⟨normal, writesNormal, settled⟩ := exists_settled writes
    refine ⟨writes, ?_, unique⟩
    rw [← unique normal writesNormal settled]
    exact settled
  · intro error failed shallow program
    rcases parse_error failed with ⟨fault, -, other⟩ | ⟨front, stop, readStop, rejected, -, -⟩
    · cases other
    · rw [read] at readStop
      rw [← Except.ok.inj readStop] at rejected
      exact not_written_of_rejected rejected shallow program

/-- The tokens `int x ;` write one settled program, with one variable, and no program is written by
the tokens `int x = ;`, whose initial value is missing. -/
theorem parse_accepts_grammar_noValue :
    (∀ program, ProgramWritten
        [⟨.keyword .intWord, some (.spelling "int"), ⟨1, 1⟩⟩, ⟨.name, some (.name "x"), ⟨1, 5⟩⟩,
          ⟨.mark .semicolon, some (.spelling ";"), ⟨1, 6⟩⟩] program → program.Settled →
      program = ⟨[], [], [.declare ⟨⟨.keyword .intWord, some (.spelling "int"), ⟨1, 1⟩⟩, false⟩
        ⟨.name, some (.name "x"), ⟨1, 5⟩⟩], none, []⟩) ∧
      ¬ ∃ program, ProgramWritten
        [⟨.keyword .intWord, some (.spelling "int"), ⟨1, 1⟩⟩, ⟨.name, some (.name "x"), ⟨1, 5⟩⟩,
          ⟨.mark .assign, some (.spelling "="), ⟨1, 6⟩⟩,
          ⟨.mark .semicolon, some (.spelling ";"), ⟨1, 7⟩⟩] program := by
  constructor
  · obtain ⟨listed, parsed⟩ :
        tokenize "int x;" = .ok
          [⟨.keyword .intWord, some (.spelling "int"), ⟨1, 1⟩⟩, ⟨.name, some (.name "x"), ⟨1, 5⟩⟩,
            ⟨.mark .semicolon, some (.spelling ";"), ⟨1, 6⟩⟩, .eof ⟨1, 7⟩] ∧
        parse "int x;" = .ok ⟨[], [], [.declare
          ⟨⟨.keyword .intWord, some (.spelling "int"), ⟨1, 1⟩⟩, false⟩
          ⟨.name, some (.name "x"), ⟨1, 5⟩⟩], none, []⟩ :=
      ⟨by cbv, by cbv⟩
    obtain ⟨body, location, same, accepts, -⟩ := parse_accepts_grammar listed
    have before := congrArg List.dropLast same
    rw [List.dropLast_concat] at before
    obtain ⟨-, -, unique⟩ := accepts _ parsed
    intro program writes
    refine unique program ?_
    rw [← before]
    exact writes
  · obtain ⟨listed, failed⟩ :
        tokenize "int x=;" = .ok
          [⟨.keyword .intWord, some (.spelling "int"), ⟨1, 1⟩⟩, ⟨.name, some (.name "x"), ⟨1, 5⟩⟩,
            ⟨.mark .assign, some (.spelling "="), ⟨1, 6⟩⟩,
            ⟨.mark .semicolon, some (.spelling ";"), ⟨1, 7⟩⟩, .eof ⟨1, 8⟩] ∧
        parse "int x=;" = .error (.grammatical
          ⟨.unexpected .expression ⟨.mark .semicolon, some (.spelling ";"), ⟨1, 7⟩⟩, ⟨1, 7⟩⟩) :=
      ⟨by cbv, by cbv⟩
    obtain ⟨body, location, same, -, broken⟩ := parse_accepts_grammar listed
    have before := congrArg List.dropLast same
    rw [List.dropLast_concat] at before
    rintro ⟨program, writes⟩
    refine broken _ failed rfl program ?_
    rw [← before]
    exact writes

end Cpplet

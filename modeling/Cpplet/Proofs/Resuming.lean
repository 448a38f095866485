import Cpplet.Proofs.Cursors
import Cpplet.Proofs.Depth
import Cpplet.Proofs.Layout

/-!
# Resuming is parsing the rest

A session that stopped at a token goes on as if the source began with this token, apart from the
places. Lexing is mirrored as parsing is: a cursor at another place reads the same tokens at other
places, as long as moving keeps step with walking over a text (`Location.Steady`). The shift from
the front of a text to the place where the text stands keeps step, so what is left behind an error
is the feed of the characters that are left, shifted to the error.

A session that has parsed a program is at the end of the file and stays there.

Nothing else is left over from one parse to the next. A session whose parser counts its open levels
and keeps the count parses the same, and no parse leaves a level open for the one behind it.
-/

namespace Cpplet

namespace Location

/-- The place that a place of a text comes to where the text stands at another place. The first
line goes on behind what stands before it there, and every further line keeps its columns. -/
def shift (base place : Location) : Location :=
  if 1 < place.line then ⟨base.line + place.line - 1, place.column⟩
  else ⟨base.line, base.column + place.column - 1⟩

/-- Whether moving places keeps step with walking over a text from a place on. -/
def Steady (move : Location → Location) (place : Location) : Prop :=
  ∀ text, move (place.past text) = (move place).past text

/-- Moving that keeps step from a place on keeps step from every later place on. -/
theorem Steady.past {move : Location → Location} {place : Location} (steady : Steady move place)
    (text : List Char) : Steady move (place.past text) := by
  intro more
  rw [← past_append, steady (text ++ more), past_append, steady text]

/-- A character moves a shifted place as it moves the place, and keeps it counted from one. -/
theorem shift_after (base : Location) {place : Location} (line : 0 < place.line)
    (column : 0 < place.column) (c : Char) :
    shift base (place.after c) = (shift base place).after c ∧
      0 < (place.after c).line ∧ 0 < (place.after c).column := by
  unfold after
  by_cases feed : c = '\n'
  · simp only [feed, ↓reduceIte]
    refine ⟨?_, by omega, by omega⟩
    by_cases later : 1 < place.line
    · simp only [shift, later, ↓reduceIte, show 1 < place.line + 1 by omega, mk.injEq, and_true]
      omega
    · simp only [shift, later, ↓reduceIte, show 1 < place.line + 1 by omega, mk.injEq, and_true]
      omega
  · simp only [feed, ↓reduceIte]
    refine ⟨?_, line, by omega⟩
    by_cases later : 1 < place.line
    · simp only [shift, later, ↓reduceIte]
    · simp only [shift, later, ↓reduceIte, mk.injEq, true_and]
      omega

/-- Shifting keeps step with walking from the front of a text. -/
theorem steady_shift (base : Location) : Steady (shift base) start := by
  have walk : ∀ (text : List Char) (place : Location), 0 < place.line → 0 < place.column →
      shift base (place.past text) = (shift base place).past text := by
    intro text
    induction text with
    | nil =>
      intro place _ _
      rfl
    | cons c text ih =>
      intro place line column
      obtain ⟨step, later⟩ := shift_after base line column c
      rw [past_cons, past_cons, ih _ later.1 later.2, step]
  intro text
  exact walk text start (by decide) (by decide)

end Location

/-! ## Lexing at another place -/

instance : Placed LexicalError := ⟨LexicalError.relocate⟩

instance : Placed Cursor := ⟨Cursor.relocate⟩

instance : Placed Fault := ⟨Fault.relocate⟩

instance : Placed Feed := ⟨Feed.relocate⟩

instance : Placed SourceError := ⟨SourceError.relocate⟩

instance {ε α : Type} [Placed ε] [Placed α] : Placed (Except ε α) where
  relocate move
    | .ok value => .ok (Placed.relocate move value)
    | .error error => .error (Placed.relocate move error)

namespace Cursor

variable {move : Location → Location} {cursor : Cursor}

/-- Behind a text at another place is at another place behind the text. -/
theorem past_relocate (steady : Location.Steady move cursor.location) (text : List Char) :
    (cursor.relocate move).past text = (cursor.past text).relocate move := by
  unfold past relocate
  rw [steady text]

/-- A misfit at another place is blamed there. -/
theorem misread_relocate (steady : Location.Steady move cursor.location) (misfit : Misfit) :
    (cursor.relocate move).misread misfit = Placed.relocate move (cursor.misread misfit) := by
  have blamed : (cursor.relocate move).location.past misfit.lead =
      move (cursor.location.past misfit.lead) := (steady misfit.lead).symm
  unfold misread
  rw [past_relocate steady, blamed]
  rfl

/-- The token at a cursor at another place is the token there. -/
theorem token_relocate (steady : Location.Steady move cursor.location) :
    (cursor.relocate move).token = Placed.relocate move cursor.token := by
  have rest : (cursor.relocate move).rest = cursor.rest := rfl
  unfold token
  rw [rest]
  cases left : cursor.rest with
  | nil => rfl
  | cons c others =>
    cases found : Lexeme.front c others with
    | ok lexeme =>
      simp only [found, past_relocate steady]
      rfl
    | error misfit =>
      simp only [found, misread_relocate steady]

/-- The next token of a cursor at another place is the next token there. -/
theorem next_relocate (steady : Location.Steady move cursor.location) :
    (cursor.relocate move).next = Placed.relocate move cursor.next := by
  have rest : (cursor.relocate move).rest = cursor.rest := rfl
  unfold next
  rw [rest]
  cases Trivia.skip cursor.rest with
  | ok skipped =>
    simp only [past_relocate steady]
    exact token_relocate (steady.past skipped)
  | error misfit => exact misread_relocate steady misfit

/-- A token is read by walking over a text. -/
theorem exists_past_of_next {behind : Cursor} {token : Token}
    (read : cursor.next = (.ok token, behind)) :
    ∃ text, behind.location = cursor.location.past text := by
  unfold next at read
  split at read
  · rename_i gap skipped
    rcases token_ok read with ⟨-, -, rfl⟩ | ⟨text, -, -, -, -, rfl⟩
    · exact ⟨gap, rfl⟩
    · exact ⟨gap ++ text, (Location.past_append _ _ _).symm⟩
  · cases read

end Cursor

/-- A token in front of what is fed behind it, which may be a fault. -/
def Feed.onto (token : Token) : Except Fault Feed → Feed
  | .ok rest => .more token rest
  | .error fault => .last token fault

namespace Feeds

/-- A feed that is fed at another place is the feed at other places. -/
theorem relocate {move : Location → Location} {cursor : Cursor} {result : Except Fault Feed}
    (feeds : Feeds cursor result) (steady : Location.Steady move cursor.location) :
    Feeds (cursor.relocate move) (Placed.relocate move result) := by
  induction feeds with
  | fault read =>
    have moved := Cursor.next_relocate steady
    rw [read] at moved
    exact .fault moved
  | eof read final =>
    have moved := Cursor.next_relocate steady
    rw [read] at moved
    exact .eof moved final
  | last read inner rest ih =>
    have moved := Cursor.next_relocate steady
    rw [read] at moved
    obtain ⟨text, place⟩ := Cursor.exists_past_of_next read
    exact .last moved inner (ih (place ▸ steady.past text))
  | more read inner rest ih =>
    have moved := Cursor.next_relocate steady
    rw [read] at moved
    obtain ⟨text, place⟩ := Cursor.exists_past_of_next read
    exact .more moved inner (ih (place ▸ steady.past text))

/-- What a cursor feeds that reads a token is this token and what is fed behind it. -/
theorem of_token {cursor behind : Cursor} {token : Token} {result : Except Fault Feed}
    (feeds : Feeds cursor result) (read : cursor.next = (.ok token, behind))
    (inner : token.kind ≠ .eof) : ∃ rest, Feeds behind rest ∧ result = .ok (.onto token rest) := by
  cases feeds with
  | fault again => cases read.symm.trans again
  | eof again final =>
    cases read.symm.trans again
    exact absurd final inner
  | last again _ rest =>
    cases read.symm.trans again
    exact ⟨_, rest, rfl⟩
  | more again _ rest =>
    cases read.symm.trans again
    exact ⟨_, rest, rfl⟩

/-- A cursor is the beginning of one feed only. -/
theorem unique {cursor : Cursor} {first second : Except Fault Feed} (left : Feeds cursor first)
    (right : Feeds cursor second) : first = second := by
  induction left generalizing second with
  | fault read =>
    cases right with
    | fault again =>
      cases read.symm.trans again
      rfl
    | eof again _ => cases read.symm.trans again
    | last again _ _ => cases read.symm.trans again
    | more again _ _ => cases read.symm.trans again
  | eof read final =>
    cases right with
    | fault again => cases read.symm.trans again
    | eof again _ =>
      cases read.symm.trans again
      rfl
    | last again inner _ =>
      cases read.symm.trans again
      exact absurd final inner
    | more again inner _ =>
      cases read.symm.trans again
      exact absurd final inner
  | last read inner rest ih =>
    obtain ⟨found, behind, rfl⟩ := right.of_token read inner
    rw [← ih behind]
    rfl
  | more read inner rest ih =>
    obtain ⟨found, behind, rfl⟩ := right.of_token read inner
    rw [← ih behind]
    rfl

/-- What is fed at a cursor is what is fed from the front of the characters that are left, shifted
to the cursor. -/
theorem eq_shift {here : Cursor} {result : Except Fault Feed} (feeds : Feeds here result) :
    result = Placed.relocate (Location.shift here.location)
      (Feed.ofCursor (.ofSource (String.ofList here.rest))) := by
  have steady := Location.steady_shift here.location
  have moved : (Cursor.ofSource (String.ofList here.rest)).relocate
      (Location.shift here.location) = here := by
    show Cursor.mk (String.ofList here.rest).toList here.location = here
    rw [String.toList_ofList]
  have shifted := (Feed.feeds_ofCursor (.ofSource (String.ofList here.rest))).relocate steady
  rw [moved] at shifted
  exact feeds.unique shifted

end Feeds

/-! ## Sessions -/

open Grammar

/-- The program of a source that holds nothing. -/
def Program.nothing : Program := ⟨[], [], [], none, []⟩

namespace Session

variable {source : List Char} {session : Session}

/-- A session after a number of parses. -/
def after (session : Session) : Nat → Session
  | 0 => session
  | n + 1 => (session.after n).parse.2

/-- Whether the next parse of a session meets no lexical error. -/
def Calm (session : Session) : Prop := ∀ error, session.parse.1 ≠ .error (.lexical error)

/-- Whether what is left of a session is what a place of a source feeds. -/
def StandsIn (source : List Char) (session : Session) : Prop :=
  ∃ here : Cursor, here.StandsIn source ∧ Feeds here (.ok session.feed)

/-- A session begins at the front of its source. -/
theorem standsIn_ofSource {text : String} (opened : ofSource text = .ok session) :
    session.StandsIn text.toList := by
  have feeds := Feed.feeds_ofCursor (.ofSource text)
  unfold ofSource at opened
  split at opened
  · rename_i feed read
    cases opened
    rw [read] at feeds
    exact ⟨_, Cursor.standsIn_ofSource text, feeds⟩
  · cases opened

/-- A parse that ends well ends with the end of the file as its lookahead. -/
theorem parse_ok {program : Program} (parsed : session.parse.1 = .ok program) :
    ∃ tokens : List Token, session.feed = tokens ++ session.parse.2.feed ∧
      session.parse.2.feed.kind = .eof := by
  have fits := (reads_wholeProgram nestingLimit).fits session.feed
  unfold parse ofOutcome at parsed ⊢
  split at parsed
  · rename_i found rest accepted
    rw [accepted] at fits
    obtain ⟨tokens, split, -⟩ := fits
    exact ⟨tokens, split, ensures_wholeProgram nestingLimit _ _ _ accepted⟩
  · cases parsed
  · cases parsed

/-- A parse that breaks the grammar stops at the token that is blamed. -/
theorem parse_grammatical {error : SyntaxError}
    (failed : session.parse.1 = .error (.grammatical error)) :
    ∃ tokens : List Token, session.feed = tokens ++ session.parse.2.feed ∧
      session.parse.2.feed.current.location = error.location := by
  have fits := (reads_wholeProgram nestingLimit).fits session.feed
  unfold parse ofOutcome at failed ⊢
  split at failed
  · cases failed
  · rename_i found stop rejected
    cases failed
    rw [rejected] at fits
    obtain ⟨tokens, split, -, bears, -⟩ := fits
    exact ⟨tokens, split, bears.symm⟩
  · cases failed

/-- A parse that meets no lexical error keeps a session in its source. -/
theorem StandsIn.parse (stands : session.StandsIn source) (calm : session.Calm) :
    session.parse.2.StandsIn source := by
  obtain ⟨here, inside, feeds⟩ := stands
  have passed : ∃ tokens : List Token, session.feed = tokens ++ session.parse.2.feed := by
    cases result : session.parse.1 with
    | ok program =>
      obtain ⟨tokens, split, -⟩ := parse_ok result
      exact ⟨tokens, split⟩
    | error error =>
      cases error with
      | lexical error => exact absurd result (calm error)
      | grammatical error =>
        obtain ⟨tokens, split, -⟩ := parse_grammatical result
        exact ⟨tokens, split⟩
  obtain ⟨tokens, split⟩ := passed
  rw [split] at feeds
  exact feeds.behind inside

/-- Parses that meet no lexical error keep a session in its source. -/
theorem StandsIn.after (stands : session.StandsIn source) {n : Nat}
    (calm : ∀ i < n, (session.after i).Calm) : (session.after n).StandsIn source := by
  induction n with
  | zero => exact stands
  | succ n ih =>
    have before := ih fun i earlier => calm i (by omega)
    exact before.parse (calm n (by omega))

/-- A session at other places parses the same, at the other places. -/
theorem parse_relocate (move : Location → Location) (feed : Feed) :
    (parse ⟨feed.relocate move⟩).1 = Placed.relocate move (parse ⟨feed⟩).1 := by
  have mirrored : wholeProgram nestingLimit (feed.relocate move) =
      (wholeProgram nestingLimit feed).relocate move := mirrors_wholeProgram nestingLimit feed
  unfold parse
  rw [mirrored]
  cases wholeProgram nestingLimit feed with
  | accepted program rest => rfl
  | rejected error stop =>
    cases error with
    | lexical error => rfl
    | grammatical error => rfl

/-- A session in a source parses what a fresh one parses over the characters from the lookahead
on, shifted to the lookahead. -/
theorem StandsIn.parse_eq (stands : session.StandsIn source) :
    ∃ before behind fresh, source = before ++ behind ∧
      Location.start.past before = session.feed.current.location ∧
      ofSource (String.ofList behind) = .ok fresh ∧
      session.parse.1 =
        Placed.relocate (Location.shift session.feed.current.location) fresh.parse.1 := by
  obtain ⟨cursor, inside, feeds⟩ := stands
  obtain ⟨here, ⟨before, split, place⟩, same, again⟩ := feeds.at_current inside
  have shifted := again.eq_shift
  rw [same] at shifted
  cases read : Feed.ofCursor (.ofSource (String.ofList here.rest)) with
  | error fault =>
    rw [read] at shifted
    cases shifted
  | ok feed =>
    rw [read] at shifted
    have moved : session.feed =
        feed.relocate (Location.shift session.feed.current.location) := Except.ok.inj shifted
    refine ⟨before, here.rest, ⟨feed⟩, split, place.symm.trans same, ?_, ?_⟩
    · rw [ofSource, read]
    · rw [← parse_relocate, ← moved]

/-- At the end of the file there is nothing to parse. -/
theorem parse_eof (location : Location) :
    parse ⟨.eof location⟩ = (.ok Program.nothing, ⟨.eof location⟩) := rfl

/-- A session at the end of the file stays there. -/
theorem after_eq_of_eof {location : Location} {n m : Nat}
    (ended : session.after n = ⟨.eof location⟩) (later : n ≤ m) :
    session.after m = ⟨.eof location⟩ := by
  induction later with
  | refl => exact ended
  | step _ ih => rw [after, ih, parse_eof]

end Session

/-- A session with the gauge that its parser hands on from one parse to the next. -/
structure CountedSession where
  /-- What is left to parse. -/
  session : Session
  /-- The levels that are open, and that were. -/
  gauge : Gauge

namespace CountedSession

/-- Parse once more, from the depth that the time before left. -/
def parse (counted : CountedSession) : Option (Except SourceError Program × CountedSession) :=
  match wholeProgramOf (Counted.expr nestingLimit (nestingLimit + 1))
      (Counted.statement nestingLimit (nestingLimit + 1)) counted.gauge counted.session.feed with
  | none => none
  | some (outcome, gauge) =>
    some ((Session.ofOutcome outcome).1, ⟨(Session.ofOutcome outcome).2, gauge⟩)

/-- A session after a number of parses. -/
def after (counted : CountedSession) : Nat → Option CountedSession
  | 0 => some counted
  | n + 1 => (counted.after n).bind fun before => before.parse.map Prod.snd

/-- Without open levels, a session with a gauge parses as one without, and leaves no level open. -/
theorem parse_eq (session : Session) (peak : Nat) :
    ∃ reached ≤ max peak nestingLimit,
      parse ⟨session, ⟨0, peak⟩⟩ = some (session.parse.1, ⟨session.parse.2, ⟨0, reached⟩⟩) := by
  obtain ⟨inner, below⟩ := Counted.keeps_expr_statement (Nat.zero_le nestingLimit)
  obtain ⟨reached, ran, -, bound⟩ := Counted.keeps_wholeProgram inner below peak session.feed
  refine ⟨reached, bound, ?_⟩
  rw [parse, ran]
  rfl

/-- Every parse of a session begins without open levels, whatever the parses before it came to. -/
theorem after_eq (session : Session) (n : Nat) :
    ∃ reached ≤ nestingLimit,
      after ⟨session, ⟨0, 0⟩⟩ n = some ⟨session.after n, ⟨0, reached⟩⟩ := by
  induction n with
  | zero => exact ⟨0, Nat.zero_le _, rfl⟩
  | succ n ih =>
    obtain ⟨before, within, same⟩ := ih
    obtain ⟨reached, bound, parsed⟩ := parse_eq (session.after n) before
    refine ⟨reached, by omega, ?_⟩
    rw [after, same, Option.bind_some, parsed, Option.map_some]
    rfl

end CountedSession

/-- Resuming is parsing the rest. After any number of parses of a session, none of which met a
lexical error: if the last one broke the grammar, the lookahead stands where the error is, and the
next parse gives what the first parse of a session over the characters from there on gives, with
every place shifted; and if the last one ended well, all later ones give the empty program. -/
theorem resuming_parses_rest {source : String} {session : Session}
    (opened : Session.ofSource source = .ok session) (n : Nat)
    (calm : ∀ i ≤ n, (session.after i).Calm) :
    (∀ error, (session.after n).parse.1 = .error (.grammatical error) →
      (session.after (n + 1)).feed.current.location = error.location ∧
      ∃ before behind fresh, source.toList = before ++ behind ∧
        Location.start.past before = error.location ∧
        Session.ofSource (String.ofList behind) = .ok fresh ∧
        (session.after (n + 1)).parse.1 =
          Placed.relocate (Location.shift error.location) fresh.parse.1) ∧
    (∀ program, (session.after n).parse.1 = .ok program →
      ∀ m, n < m → (session.after m).parse.1 = .ok Program.nothing) := by
  have begins := Session.standsIn_ofSource opened
  constructor
  · intro error failed
    obtain ⟨-, -, place⟩ := Session.parse_grammatical failed
    have lookahead : (session.after (n + 1)).feed.current.location = error.location := place
    have stands := begins.after (n := n + 1) fun i earlier => calm i (by omega)
    refine ⟨lookahead, ?_⟩
    rw [← lookahead]
    exact stands.parse_eq
  · intro program parsed m later
    obtain ⟨tokens, split, final⟩ := Session.parse_ok parsed
    obtain ⟨here, -, feeds⟩ := begins.after (n := n) fun i earlier => calm i (by omega)
    have proper := Feed.proper_of_feeds feeds
    rw [split] at proper
    have ended : session.after (n + 1) = ⟨.eof _⟩ :=
      congrArg Session.mk (proper.rest.eq_eof final)
    rw [Session.after_eq_of_eof ended later, Session.parse_eof]

/-- In `int x int y int`, with `z;` on a second line, the second and the third `int` are refused.
What is parsed behind the second refusal is `int z;` at its places, and then nothing is left. -/
theorem resuming_parses_rest_twice :
    ∃ session, Session.ofSource "int x int y int\nz;" = .ok session ∧
      (session.after 2).feed.current.location = ⟨1, 13⟩ ∧
      (∃ before behind fresh, "int x int y int\nz;".toList = before ++ behind ∧
        Location.start.past before = ⟨1, 13⟩ ∧
        Session.ofSource (String.ofList behind) = .ok fresh ∧
        (session.after 2).parse.1 = Placed.relocate (Location.shift ⟨1, 13⟩) fresh.parse.1) ∧
      ∀ m, 2 < m → (session.after m).parse.1 = .ok Program.nothing := by
  obtain ⟨session, next, last, opened, first, second, third⟩ :
      ∃ session next last, Session.ofSource "int x int y int\nz;" = .ok session ∧
        session.parse = (.error (.grammatical
          ⟨.unexpected (.kind (.mark .semicolon))
            ⟨.keyword .intWord, some (.spelling "int"), ⟨1, 7⟩⟩, ⟨1, 7⟩⟩), next) ∧
        next.parse = (.error (.grammatical
          ⟨.unexpected (.kind (.mark .semicolon))
            ⟨.keyword .intWord, some (.spelling "int"), ⟨1, 13⟩⟩, ⟨1, 13⟩⟩), last) ∧
        last.parse.1 = .ok ⟨[], [], [.declare
          ⟨⟨.keyword .intWord, some (.spelling "int"), ⟨1, 13⟩⟩, false⟩
          ⟨.name, some (.name "z"), ⟨2, 1⟩⟩], none, []⟩ :=
    ⟨_, _, _, by cbv, by cbv, by cbv, by cbv⟩
  have afterOne : session.after 1 = next := congrArg Prod.snd first
  have afterTwo : session.after 2 = last := by rw [Session.after, afterOne, second]
  have refused : (session.after 1).parse.1 = next.parse.1 := by rw [afterOne]
  rw [second] at refused
  have parsed : (session.after 2).parse.1 = last.parse.1 := by rw [afterTwo]
  rw [third] at parsed
  have calm : ∀ i ≤ 2, (session.after i).Calm := by
    intro i few error lexical
    obtain rfl | rfl | rfl : i = 0 ∨ i = 1 ∨ i = 2 := by omega
    · rw [Session.after, first] at lexical
      cases lexical
    · rw [refused] at lexical
      cases lexical
    · rw [parsed] at lexical
      cases lexical
  obtain ⟨broken, -⟩ := resuming_parses_rest opened 1 fun i few => calm i (by omega)
  obtain ⟨-, ended⟩ := resuming_parses_rest opened 2 calm
  obtain ⟨lookahead, rest⟩ := broken _ refused
  exact ⟨session, opened, lookahead, rest, ended _ parsed⟩

end Cpplet

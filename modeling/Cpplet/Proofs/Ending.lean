import Cpplet.Proofs.Calling
import Cpplet.Proofs.Cursors
import Cpplet.Proofs.Places
import Cpplet.Proofs.Shapes

/-!
# Parsing comes to an end

Nothing that goes round or calls itself can go on forever. What a parser takes, it takes for good:
wherever it accepts, the lookahead has moved forward in the source (`Advances`), it never moves past
the end of the file (`SparesEnd`), and what is looked at only to choose a way leaves the feed where
it was (`probe`). So every repetition ends without being counted (`Ends`), and the routines that
call one another before a token is passed descend (`Call.Below`).
-/

namespace Cpplet

variable {α : Type}

/-! ## Forward in the source -/

/-- Of two places that stand in a source, the later one is reached from the earlier one by passing
characters of it. -/
theorem Location.Before.exists_between {source : List Char} {first second : Location}
    (before : first.Before second) (standsFirst : first.StandsIn source)
    (standsSecond : second.StandsIn source) :
    ∃ front between, between ≠ [] ∧ front ++ between <+: source ∧ first = start.past front ∧
      second = start.past (front ++ between) := by
  obtain ⟨front, inFirst, rfl⟩ := standsFirst
  obtain ⟨whole, inSecond, rfl⟩ := standsSecond
  rcases List.prefix_or_prefix_of_prefix inFirst inSecond with ⟨between, rfl⟩ | ⟨extra, rfl⟩
  · refine ⟨front, between, ?_, inSecond, rfl, rfl⟩
    rintro rfl
    rw [List.append_nil] at before
    exact not_before_self _ before
  · rw [past_append] at before
    rcases (start.past whole).eq_or_before_past extra with same | after
    · rw [← same] at before
      exact absurd before (not_before_self _)
    · exact absurd (before.trans after) (not_before_self _)

/-- Whether the lookahead moves forward in a source from one feed to another: tokens are passed,
none of them the end of the file, and the lookahead starts some characters further on. -/
def Feed.MovesTo (source : List Char) (feed rest : Feed) : Prop :=
  (∃ tokens : List Token, tokens ≠ [] ∧ (∀ token ∈ tokens, token.kind ≠ .eof) ∧
    feed = tokens ++ rest) ∧
  ∃ front between, between ≠ [] ∧ front ++ between <+: source ∧
    feed.current.location = Location.start.past front ∧
    rest.current.location = Location.start.past (front ++ between)

/-- The answer of a parser, where a rejection is a refusal. -/
def Outcome.granted : Outcome Bool → Bool
  | .accepted answer _ => answer
  | .rejected _ _ => false

namespace Parser

/-- Whether a parser moves the lookahead forward in a source wherever it accepts, whatever tokens of
the source have been passed before. -/
def Advances (source : String) (parser : Parser α) : Prop :=
  ∀ (passed : List Token) (feed : Feed) (value : α) (rest : Feed),
    Feed.ofCursor (.ofSource source) = .ok (passed ++ feed) →
      parser feed = .accepted value rest → feed.MovesTo source.toList rest

/-- A parser whose accepted sequences are never empty moves the lookahead forward. -/
theorem Reads.advances {parser : Parser α} {language : Language α} (reads : parser.Reads language)
    (nonempty : ∀ tokens value, language tokens value → tokens ≠ []) (source : String) :
    parser.Advances source := by
  intro passed feed value rest opened accepted
  have feeds := Feed.feeds_ofCursor (.ofSource source)
  rw [opened] at feeds
  obtain ⟨here, inside, feedsHere⟩ := feeds.behind (Cursor.standsIn_ofSource source)
  obtain ⟨tokens, member, rfl⟩ := reads.tokens_eq accepted
  have some := nonempty tokens value member
  have inner := (Feed.proper_of_feeds feedsHere).inner
  refine ⟨⟨tokens, some, inner, rfl⟩, ?_⟩
  obtain ⟨behind, insideBehind, feedsBehind⟩ := feedsHere.behind inside
  obtain ⟨first, insideFirst, placeFirst, -⟩ := feedsHere.at_current inside
  obtain ⟨second, insideSecond, placeSecond, -⟩ := feedsBehind.at_current insideBehind
  refine Location.Before.exists_between ?_ (placeFirst ▸ insideFirst.location)
    (placeSecond ▸ insideSecond.location)
  -- The lookahead behind is one of the tokens that stand behind the first.
  obtain ⟨head, tail, rfl⟩ := List.exists_cons_of_ne_nil some
  obtain ⟨others, same⟩ := rest.tokens_eq_current_cons
  have ordered := (Feed.ordered_of_feeds feedsHere).2
  rw [Feed.tokens_append, List.cons_append, same, List.pairwise_cons] at ordered
  exact ordered.1 rest.current (by simp)

/-! ## The end of the file -/

/-- Whether a parser leaves the end of the file alone: a fault behind it is never met, and nothing
else changes. -/
def SparesEnd (parser : Parser α) : Prop :=
  ∀ (fault : Fault) (feed : Feed),
    parser (feed.fenced (some fault)) = (parser feed).fenced (some fault)

/-- A parser that echoes itself leaves the end of the file alone. -/
theorem sparesEnd_of_echoes {parser : Parser α}
    (echoes : ∀ fence bound, Echoes fence bound parser parser) : parser.SparesEnd :=
  fun fault feed => (echoes (some fault) feed.size feed (Nat.le_refl _)).2

/-- Moving past the lookahead, whatever it is, does not leave the end of the file alone. -/
theorem not_sparesEnd_advance : ¬ advance.SparesEnd := by
  intro spares
  have same := spares ⟨⟨.unclosedComment, .start⟩, ⟨[], .start⟩⟩ (.eof .start)
  cases same

/-! ## Looking ahead -/

/-- Ask a parser and go back to where it began. -/
def probe (hypothesis : Parser Bool) : Parser Bool := fun feed =>
  .accepted (hypothesis feed).granted feed

/-- Move past tokens as long as each passes its test; the last is only looked at. -/
def passes : List (Token → Bool) → Parser Bool
  | [] => return true
  | [test] => choose (fun feed => test feed.current) (return true) (return false)
  | test :: second :: tests =>
    choose (fun feed => test feed.current) (advance >>= fun _ => passes (second :: tests))
      (return false)

/-- Looking ahead is moving past the tokens and going back. -/
theorem ahead_eq_probe (tests : List (Token → Bool)) : ahead tests = probe (passes tests) := by
  funext feed
  refine congrArg (Outcome.accepted · feed) ?_
  induction tests generalizing feed with
  | nil => cases feed <;> rfl
  | cons test tests ih =>
    cases tests with
    | nil =>
      rw [Feed.startsWith, passes, choose]
      split
      · assumption
      · exact eq_false_of_ne_true ‹_›
    | cons second tests =>
      simp only [Feed.startsWith]
      by_cases shown : test feed.current = true
      · have step : passes (test :: second :: tests) feed =
            (advance feed).andThen fun _ => passes (second :: tests) := by
          rw [passes, choose, if_pos shown, bind_apply]
        rw [step, shown, Bool.true_and, advance]
        cases feed.next with
        | error fault => rfl
        | ok rest => exact ih rest
      · rw [passes, choose, if_neg shown, eq_false_of_ne_true shown]
        rfl

/-- Moving past tokens that the end of the file is none of is echoed. -/
theorem echoes_passes {fence : Option Fault} {bound : Nat} {tests : List (Token → Bool)}
    (ends : ∀ test ∈ tests, ∀ location, test (.eof location) = false) :
    Echoes fence bound (passes tests) (passes tests) := by
  induction tests with
  | nil => exact echoes_pure _
  | cons test tests ih =>
    have blind : ∀ feed : Feed, test (feed.fenced fence).current = test feed.current := by
      intro feed
      rw [Feed.current_fenced]
    cases tests with
    | nil => exact echoes_choose blind (echoes_pure _) (echoes_pure _)
    | cons second tests =>
      have later := ih fun other member => ends other (List.mem_cons_of_mem _ member)
      intro feed small
      rw [EchoesAt, passes, choose, choose, blind]
      split
      · rename_i shown
        refine EchoesAt.bind small ?_ fun _ => later
        cases feed with
        | eof location =>
          have fails : test (.eof location) = false := ends test List.mem_cons_self location
          rw [Feed.current, fails] at shown
          cases shown
        | last token fault => exact ⟨Nat.le_refl _, rfl⟩
        | more token rest => exact ⟨Nat.le_succ _, rfl⟩
      · exact echoes_pure _ feed small

/-! ## Repetitions -/

/-- What a repetition comes to, round after round and without a count: it stops where its test is
not passed, it fails where a round fails, and otherwise it goes on behind the round. -/
inductive Repeats (go : Feed → Bool) (item : Parser α) : Feed → Outcome (List α) → Prop where
  | stop {feed : Feed} (stops : go feed = false) : Repeats go item feed (.accepted [] feed)
  | fail {feed stop : Feed} {error : SourceError} (goes : go feed = true)
      (rejected : item feed = .rejected error stop) : Repeats go item feed (.rejected error stop)
  | round {feed rest : Feed} {value : α} {outcome : Outcome (List α)} (goes : go feed = true)
      (accepted : item feed = .accepted value rest) (others : Repeats go item rest outcome) :
      Repeats go item feed (outcome.andThen fun values => return value :: values)

/-- A repetition whose rounds each take a token comes to what the counted one finds. -/
theorem Shrinks.repeats {go : Feed → Bool} {item : Parser α} (shrinks : Shrinks go item)
    (feed : Feed) : Repeats go item feed (many go item feed) := by
  -- Each round goes on from a smaller feed.
  induction size : feed.size using Nat.strongRecOn generalizing feed with
  | ind bound ih =>
    cases goes : go feed with
    | false =>
      rw [many_stop goes]
      exact .stop goes
    | true =>
      rw [many_eq shrinks, if_pos goes]
      cases result : item feed with
      | rejected error stop => exact .fail goes result
      | accepted value rest =>
        have fewer := shrinks feed value rest goes result
        have others := ih rest.size (by omega) rest rfl
        rw [Outcome.accepted_andThen, bind_apply]
        exact .round goes result others

/-- A repetition whose rounds each take a token comes to nothing else. -/
theorem Repeats.eq_many {go : Feed → Bool} {item : Parser α} (shrinks : Shrinks go item)
    {feed : Feed} {outcome : Outcome (List α)} (run : Repeats go item feed outcome) :
    outcome = many go item feed := by
  induction run with
  | stop stops => exact (many_stop stops).symm
  | fail goes rejected =>
    rw [many_eq shrinks, if_pos goes, rejected]
    rfl
  | round goes accepted others ih =>
    rw [many_eq shrinks, if_pos goes, accepted, ih, Outcome.accepted_andThen, bind_apply]

/-- Whether a repetition ends by itself wherever it begins, and with what the counted one finds. -/
def Ends (go : Feed → Bool) (item : Parser α) : Prop :=
  ∀ (feed : Feed) (outcome : Outcome (List α)),
    Repeats go item feed outcome ↔ outcome = many go item feed

/-- A repetition ends by itself if every round takes a token. -/
theorem Shrinks.ends {go : Feed → Bool} {item : Parser α} (shrinks : Shrinks go item) :
    Ends go item := by
  intro feed outcome
  constructor
  · exact Repeats.eq_many shrinks
  · rintro rfl
    exact shrinks.repeats feed

end Parser

namespace Grammar

open Cpplet.Parser

/-- An expression is never without tokens. -/
theorem written_ne_nil {rank : Nat} (tokens : List Token) (tree : Expr)
    (member : written rank tokens tree) : tokens ≠ [] := by
  obtain ⟨cost, writes⟩ := member
  obtain ⟨head, behind, rfl, -⟩ := writes.begins.startsExpr
  exact List.cons_ne_nil head behind

/-- A repetition of something behind a mark ends. -/
theorem ends_behind {item : Parser α} {language : Language α} (symbol : Mark)
    (reads : item.Reads language) :
    Ends (fun feed => decide (feed.kind = .mark symbol)) (do let _ ← mark symbol; item) :=
  (shrinks_of_fits (fun feed _ => (reads_behind symbol reads).fits feed) behind_ne_nil).ends

/-- Joining operands ends, if an operand leaves no more than it was given. -/
theorem ends_operation {operand : Parser Expr} (marks : List Mark)
    (narrows : ∀ feed, (operand feed).feed.size ≤ feed.size) :
    Ends (fun feed => isOneOf marks feed.kind) (operation operand) := by
  refine Shrinks.ends fun feed value rest goes accepted => ?_
  cases feed with
  | eof location => cases goes
  | last token fault => cases accepted
  | more token behind =>
    have smaller := narrows behind
    rw [operation, ParserLike.liftM_self, bind_apply, advance_more, Outcome.accepted_andThen,
      bind_apply] at accepted
    cases result : operand behind with
    | rejected error stop =>
      rw [result] at accepted
      cases accepted
    | accepted right last =>
      rw [result] at accepted smaller
      cases accepted
      exact Nat.lt_succ_of_le smaller

/-- Whether the lookahead moves forward in a source wherever these are parsed. -/
structure MovesForward (source : String) (budget : Nat) : Prop where
  /-- Expressions. -/
  expression : (expr budget).Advances source
  /-- Operands of a shift, which are also what a print statement prints. -/
  shifted : (additive budget).Advances source
  /-- Statements. -/
  stmt : (statement budget).Advances source
  /-- Declaration lists. -/
  steps : (declarations (expr budget)).Advances source
  /-- Used namespaces. -/
  space : usingLine.Advances source
  /-- Included headers. -/
  header : includeLine.Advances source

/-- The lookahead moves forward wherever something is parsed. -/
theorem movesForward (source : String) (budget : Nat) : MovesForward source budget where
  expression := (reads_expr budget).advances written_ne_nil source
  shifted := (reads_additive budget).advances written_ne_nil source
  stmt := (reads_statement budget).advances (fun _ _ writes => statements_ne_nil writes) source
  steps := (reads_declarations (reads_expr budget)).advances
    (fun _ _ declared => declarations_ne_nil declared) source
  space := reads_usingLine.advances opening_ne_nil source
  header := reads_includeLine.advances opening_ne_nil source

/-- Whether these leave the end of the file alone, wherever they are parsed. -/
structure StaysInside (budget : Nat) : Prop where
  /-- Expressions. -/
  expression : (expr budget).SparesEnd
  /-- Operands of a shift. -/
  shifted : (additive budget).SparesEnd
  /-- Statements. -/
  stmt : (statement budget).SparesEnd
  /-- Declaration lists. -/
  steps : (declarations (expr budget)).SparesEnd
  /-- Used namespaces. -/
  space : usingLine.SparesEnd
  /-- Included headers. -/
  header : includeLine.SparesEnd
  /-- The entry point. -/
  entry : (entryPoint budget).SparesEnd
  /-- Whole programs. -/
  whole : (wholeProgram budget).SparesEnd

/-- No parser of the grammar moves past the end of the file. -/
theorem staysInside (budget : Nat) : StaysInside budget where
  expression := sparesEnd_of_echoes fun _ _ => echoes_expr budget
  shifted := sparesEnd_of_echoes fun _ _ => echoes_additive budget
  stmt := sparesEnd_of_echoes fun _ _ => echoes_statement budget
  steps := sparesEnd_of_echoes fun _ _ => echoes_declarations (echoes_expr budget)
  space := sparesEnd_of_echoes fun _ _ => echoes_usingLine
  header := sparesEnd_of_echoes fun _ _ => echoes_includeLine
  entry := sparesEnd_of_echoes fun _ _ => echoes_entryPoint budget
  whole := sparesEnd_of_echoes fun _ _ => echoes_wholeProgram budget

/-- What the grammar looks ahead for. -/
def probed : List (List (Token → Bool)) := [castAhead, callAhead, assignmentAhead, entryAhead]

/-- Whether looking ahead by some tests moves past tokens, but not past the end of the file, and
goes back. -/
structure GoesBack (tests : List (Token → Bool)) : Prop where
  /-- Looking ahead is asking a parser and going back. -/
  probes : ahead tests = probe (passes tests)
  /-- That parser leaves the end of the file alone. -/
  spares : (passes tests).SparesEnd
  /-- There is an answer, and the feed is left where it was. -/
  stays : ∀ feed, ∃ answer, probe (passes tests) feed = .accepted answer feed

/-- Looking ahead goes back. -/
theorem goesBack {tests : List (Token → Bool)} (member : tests ∈ probed) : GoesBack tests := by
  have ends : ∀ test ∈ tests, ∀ location, test (.eof location) = false := by
    simp only [probed, List.mem_cons, List.not_mem_nil, or_false] at member
    rcases member with rfl | rfl | rfl | rfl
    · exact castAhead_ends
    · exact callAhead_ends
    · exact assignmentAhead_ends
    · exact entryAhead_ends
  exact {
    probes := ahead_eq_probe tests
    spares := sparesEnd_of_echoes fun _ _ => echoes_passes ends
    stays := fun _ => ⟨_, rfl⟩ }

/-- Whether the repetitions of the grammar end. -/
structure RoundsEnd (budget : Nat) : Prop where
  /-- What stands before the entry point. -/
  openings : Ends atOpening (opening budget)
  /-- The declarations behind it. -/
  steps : Ends atDeclaration (declarations (expr budget))
  /-- The items of a block or behind a label. -/
  block : ∀ closers, Ends (before closers) (item (expr budget) (statement budget))
  /-- The cases of a choice. -/
  cases : Ends (fun feed => decide (feed.kind = .keyword .caseWord))
    (case (expr budget) (statement budget))
  /-- Printed values. -/
  printed : Ends (fun feed => decide (feed.kind = .mark .shiftLeft)) (printItem (additive budget))
  /-- Declared variables. -/
  declared : ∀ type, Ends (fun feed => decide (feed.kind = .mark .comma))
    (nextDeclarator (expr budget) type)
  /-- The parts of a header name. -/
  parts : Ends (fun feed => decide (feed.kind = .mark .dot)) nextPart
  /-- Operators of one level with the operands behind them, whatever the levels below. -/
  operations : ∀ marks tighter, Ends (fun feed => isOneOf marks feed.kind)
    (operation (ladder (operand budget) tighter))

/-- Every repetition of the grammar ends. -/
theorem roundsEnd (budget : Nat) : RoundsEnd budget where
  openings := (shrinks_opening budget).ends
  steps := (shrinks_declarations budget).ends
  block closers := (shrinks_item budget closers).ends
  cases := (shrinks_case budget).ends
  printed := ends_behind .shiftLeft (reads_additive budget)
  declared type := ends_behind .comma (reads_declarator (reads_expr budget) type)
  parts := ends_behind .dot reads_name
  operations marks tighter := ends_operation marks fun feed =>
    (@echoes_parsers none _ (.ladder tighter) budget feed (Nat.le_refl _)).1

/-- Parsing moves forward and comes to an end. The feed of a source is what reading token after
token comes to, without a count. Whatever is parsed, the lookahead starts further on in the source
behind it; looking ahead leaves the feed where it was; and the end of the file is never moved past.
Every repetition ends by itself. A routine needs no answers but those to calls below its own, and
makes no others, where a call is below another if fewer tokens are left, or as many and fewer levels
may be opened, or as many of these too and fewer levels of operators are to be gone down. -/
theorem parsing_moves_and_ends (source : String) (budget : Nat) :
    Feeds (.ofSource source) (Feed.ofCursor (.ofSource source)) ∧
    MovesForward source budget ∧
    (∀ tests ∈ probed, GoesBack tests) ∧
    StaysInside budget ∧
    RoundsEnd budget ∧
    (∀ (callees : Callees) (call : Call),
      (∀ later : Call, later.Below call → later.answer callees = later.answer parsers) →
        call.run callees = call.answer parsers) ∧
    (∀ call later : Call, call.Makes later → later.Below call) ∧
    WellFounded Call.Below :=
  ⟨Feed.feeds_ofCursor _, movesForward source budget, fun _ member => goesBack member,
    staysInside budget, roundsEnd budget, fun _ _ agree => Call.run_eq_of_agree agree,
    fun _ _ makes => makes.below, Call.wellFounded_below⟩

/-- In the source `-x;` the statement moves the lookahead from the sign to the end of the file, no
cast is found at the sign, and the expression calls for its condition at the sign. -/
theorem parsing_moves_and_ends_negation :
    let feed : Feed := [Token.fixed (.mark .minus) ⟨1, 1⟩, ⟨.name, some (.name "x"), ⟨1, 2⟩⟩,
      Token.fixed (.mark .semicolon) ⟨1, 3⟩] ++ Feed.eof ⟨1, 4⟩
    Feed.ofCursor (.ofSource "-x;") = .ok (([] : List Token) ++ feed) ∧
    (∃ tree, statement 5 feed = .accepted tree (.eof ⟨1, 4⟩)) ∧
    feed.MovesTo "-x;".toList (.eof ⟨1, 4⟩) ∧
    castAhead ∈ probed ∧ probe (passes castAhead) feed = .accepted false feed ∧
    (Call.Makes ⟨.expr, 5, feed⟩ ⟨.ladder binaryLevels, 4, feed⟩ ∧
      Call.Below ⟨.ladder binaryLevels, 4, feed⟩ ⟨.expr, 5, feed⟩) ∧
    Call.run parsers ⟨.expr, 5, feed⟩ = Call.answer parsers ⟨.expr, 5, feed⟩ := by
  intro feed
  have opened : Feed.ofCursor (.ofSource "-x;") = .ok (([] : List Token) ++ feed) := by
    cbv
  obtain ⟨tree, parsed⟩ : ∃ tree, statement 5 feed = .accepted tree (.eof ⟨1, 4⟩) := ⟨_, rfl⟩
  have member : castAhead ∈ probed := List.mem_cons_self
  have makes := Call.makes_condition 4 feed
  obtain ⟨-, forward, back, -, -, settled, below, -⟩ := parsing_moves_and_ends "-x;" 5
  refine ⟨opened, ⟨tree, parsed⟩, forward.stmt [] feed tree _ opened parsed, member, ?_,
    ⟨makes, below _ _ makes⟩, settled parsers _ fun _ _ => rfl⟩
  rw [← (back castAhead member).probes]
  rfl

end Grammar

end Cpplet

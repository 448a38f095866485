import Cpplet.Grammar.Program
import Cpplet.Proofs.Languages

/-!
# Two runs that cannot be told apart

Two runs of the grammar over feeds that look alike do the same as long as neither notices a
difference. A comparison says which feeds look alike, where the likeness ends, and what looking
ahead can tell of it. The runs may have different budgets: the first is lost where it gives up
nesting, where it has passed the place at which the likeness ends, or where it meets a lexical
error that does not count; as long as it is not lost, the second run follows it.

Likeness is kept by everything that parsers are made of. Looking ahead is the exception: it may
see behind the place where the likeness ends, and then whichever way is taken has to pass that
place with its next token.
-/

namespace Cpplet

variable {α β : Type}

/-- Whether the nesting was given up. -/
def Breach.isTooDeep : Breach → Bool
  | .tooDeep _ => true
  | .unexpected _ _ => false

/-- Feeds that look alike down to a size. -/
structure Comparison where
  /-- The feeds that look alike. -/
  like : Feed → Feed → Prop
  /-- Smaller feeds are not compared. -/
  bound : Nat
  /-- Whether lexical errors are not compared. -/
  careless : Prop
  /-- The same lookahead is seen. -/
  current : ∀ {feed other : Feed}, like feed other → other.current = feed.current
  /-- Behind it there are feeds that look alike. -/
  next : ∀ {feed other rest : Feed}, like feed other → feed.next = .ok rest →
    rest.size < bound ∨ ∃ behind, other.next = .ok behind ∧ like rest behind
  /-- Or there is the same fault. -/
  fault : ∀ {feed other : Feed} {fault : Fault}, like feed other → feed.next = .error fault →
    careless ∨ other.next = .error fault

namespace Comparison

variable (comparison : Comparison)

/-- Whether moving on leaves what is compared. -/
def Fleeting (feed : Feed) : Prop :=
  match feed.next with
  | .ok rest => rest.size < comparison.bound
  | .error _ => comparison.careless

/-- Whether an error says nothing about the other run. -/
def Excuses : SourceError → Prop
  | .lexical _ => comparison.careless
  | .grammatical error => error.breach.isTooDeep = true

/-- Whether an outcome says nothing about the other run. -/
def Lost : Outcome α → Prop
  | .accepted _ rest => rest.size < comparison.bound
  | .rejected error stop => stop.size < comparison.bound ∨ comparison.Excuses error

/-- Whether two outcomes are the same on feeds that look alike. -/
def Match : Outcome α → Outcome α → Prop
  | .accepted value rest, .accepted found behind => found = value ∧ comparison.like rest behind
  | .rejected error stop, .rejected found behind => found = error ∧ comparison.like stop behind
  | _, _ => False

/-- Whether a parser leaves no more than it was given. -/
def Narrows (parser : Parser α) : Prop := ∀ feed, (parser feed).feed.size ≤ feed.size

/-- Whether the second of two parsers follows the first until it is lost. -/
structure Follows (leader follower : Parser α) : Prop where
  /-- The leader leaves no more than it was given. -/
  narrows : Narrows leader
  /-- Its outcome is lost, or the follower has the same. -/
  agree : ∀ feed other, comparison.like feed other →
    comparison.Lost (leader feed) ∨ comparison.Match (leader feed) (follower other)

variable {comparison}

/-- A parser that reads a language leaves no more than it was given. -/
theorem narrows_of_reads {parser : Parser α} {language : Language α}
    (reads : parser.Reads language) : Narrows parser := fun feed => (reads.fits feed).size_le

/-- Feeds that look alike have lookaheads of one kind. -/
theorem kind_eq {feed other : Feed} (alike : comparison.like feed other) :
    other.kind = feed.kind := congrArg Token.kind (comparison.current alike)

/-- What goes on behind a lost outcome is lost. -/
theorem Lost.andThen {outcome : Outcome α} (lost : comparison.Lost outcome)
    {next : α → Parser β} (narrows : ∀ value, Narrows (next value)) :
    comparison.Lost (outcome.andThen next) := by
  cases outcome with
  | rejected error stop => exact lost
  | accepted value rest =>
    have smaller := narrows value rest
    have gone : rest.size < comparison.bound := lost
    rw [Outcome.accepted_andThen]
    cases result : next value rest with
    | accepted found last =>
      rw [result] at smaller
      exact Nat.lt_of_le_of_lt smaller gone
    | rejected error stop =>
      rw [result] at smaller
      exact .inl (Nat.lt_of_le_of_lt smaller gone)

/-- Two parsers in a row leave no more than they were given. -/
theorem Narrows.bind {first : Parser α} {second : α → Parser β} (narrowsFirst : Narrows first)
    (narrowsSecond : ∀ value, Narrows (second value)) : Narrows (first >>= second) := by
  intro feed
  have smaller := narrowsFirst feed
  rw [Parser.bind_apply]
  cases result : first feed with
  | rejected error stop =>
    rw [result] at smaller
    exact smaller
  | accepted value rest =>
    rw [result] at smaller
    exact Nat.le_trans (narrowsSecond value rest) smaller

/-- Going on behind outcomes that agree agrees, if it does behind what was accepted. -/
theorem agree_andThen {outcome outcome' : Outcome α} {next next' : α → Parser β}
    (agree : comparison.Lost outcome ∨ comparison.Match outcome outcome')
    (narrows : ∀ value, Narrows (next value))
    (agreeNext : ∀ value rest behind, outcome = .accepted value rest →
      comparison.like rest behind →
        comparison.Lost (next value rest) ∨
          comparison.Match (next value rest) (next' value behind)) :
    comparison.Lost (outcome.andThen next) ∨
      comparison.Match (outcome.andThen next) (outcome'.andThen next') := by
  rcases agree with lost | same
  · exact .inl (lost.andThen narrows)
  · cases outcome with
    | accepted value rest =>
      cases outcome' with
      | rejected error stop => exact same.elim
      | accepted found behind =>
        obtain ⟨rfl, alike⟩ := same
        exact agreeNext found rest behind rfl alike
    | rejected error stop =>
      cases outcome' with
      | rejected found behind => exact .inr same
      | accepted found behind => exact same.elim

/-- Two parsers in a row are followed if both are. -/
theorem Follows.bind {first first' : Parser α} {second second' : α → Parser β}
    (followsFirst : comparison.Follows first first')
    (followsSecond : ∀ value, comparison.Follows (second value) (second' value)) :
    comparison.Follows (first >>= second) (first' >>= second') where
  narrows := followsFirst.narrows.bind fun value => (followsSecond value).narrows
  agree feed other alike := by
    rw [Parser.bind_apply, Parser.bind_apply]
    exact agree_andThen (followsFirst.agree feed other alike)
      (fun value => (followsSecond value).narrows)
      fun value rest behind _ alikeRest => (followsSecond value).agree rest behind alikeRest

/-- A value leaves everything. -/
theorem narrows_pure (value : α) : Narrows (Pure.pure value) := fun _ => Nat.le_refl _

/-- A value is followed by the same value. -/
theorem follows_pure (value : α) :
    comparison.Follows (Pure.pure value) (Pure.pure value) :=
  ⟨narrows_pure value, fun _ _ alike => .inr ⟨rfl, alike⟩⟩

/-- The same is expected at feeds that look alike. -/
theorem follows_unexpected (expected : Expectation) :
    comparison.Follows (Parser.unexpected expected : Parser α) (Parser.unexpected expected) := by
  refine ⟨fun _ => Nat.le_refl _, fun feed other alike => .inr ⟨?_, alike⟩⟩
  rw [comparison.current alike]

/-- Where nesting is given up the leader is lost. -/
theorem follows_tooDeep (nested : Nesting) (follower : Parser α) :
    comparison.Follows (Parser.tooDeep nested) follower :=
  ⟨fun _ => Nat.le_refl _, fun _ _ _ => .inl (.inr rfl)⟩

/-- Moving on leaves no more than there was. -/
theorem narrows_advance : Narrows Parser.advance := by
  intro feed
  cases feed with
  | eof location => exact Nat.le_refl _
  | last token fault => exact Nat.le_refl _
  | more token rest => exact Nat.le_succ _

/-- Moving on from where the likeness ends is lost. -/
theorem lost_advance {feed : Feed} (fleeting : comparison.Fleeting feed) :
    comparison.Lost (Parser.advance feed) := by
  unfold Fleeting at fleeting
  unfold Parser.advance
  cases moved : feed.next with
  | ok rest =>
    rw [moved] at fleeting
    exact fleeting
  | error fault =>
    rw [moved] at fleeting
    exact .inr fleeting

/-- Moving past the lookahead is followed. -/
theorem follows_advance : comparison.Follows Parser.advance Parser.advance := by
  refine ⟨narrows_advance, fun feed other alike => ?_⟩
  unfold Parser.advance
  cases moved : feed.next with
  | ok rest =>
    rcases comparison.next alike moved with gone | ⟨behind, moved', alikeRest⟩
    · exact .inl gone
    · rw [moved']
      exact .inr ⟨comparison.current alike, alikeRest⟩
  | error fault =>
    rcases comparison.fault alike moved with careless | stuck
    · exact .inl (.inr careless)
    · rw [stuck]
      exact .inr ⟨rfl, alike⟩

/-- Two ways to go on, chosen in the same way at feeds that look alike, are followed. -/
theorem follows_choose {test : Feed → Bool} {yes yes' no no' : Parser α}
    (same : ∀ feed other, comparison.like feed other → test other = test feed)
    (followsYes : comparison.Follows yes yes') (followsNo : comparison.Follows no no') :
    comparison.Follows (Parser.choose test yes no) (Parser.choose test yes' no') := by
  constructor
  · intro feed
    unfold Parser.choose
    split
    · exact followsYes.narrows feed
    · exact followsNo.narrows feed
  · intro feed other alike
    unfold Parser.choose
    rw [same feed other alike]
    split
    · exact followsYes.agree feed other alike
    · exact followsNo.agree feed other alike

/-- Moving past a lookahead that passes a test is followed. -/
theorem follows_satisfy (test : Kind → Bool) (expected : Expectation) :
    comparison.Follows (Parser.satisfy test expected) (Parser.satisfy test expected) :=
  @follows_choose _ comparison (fun feed => test feed.kind) _ _ _ _
    (fun _ _ alike => by rw [kind_eq alike]) follows_advance (follows_unexpected expected)

/-- Moving past a token of a kind is followed. -/
theorem follows_eat (kind : Kind) : comparison.Follows (Parser.eat kind) (Parser.eat kind) :=
  follows_satisfy _ _

/-- Moving past a reserved word is followed. -/
theorem follows_word (keyword : Keyword) :
    comparison.Follows (Parser.word keyword) (Parser.word keyword) := follows_eat _

/-- Moving past a mark is followed. -/
theorem follows_mark (symbol : Mark) :
    comparison.Follows (Parser.mark symbol) (Parser.mark symbol) := follows_eat _

/-- Asking for the kind of the lookahead is followed. -/
theorem follows_kind : comparison.Follows Parser.kind Parser.kind :=
  ⟨fun _ => Nat.le_refl _, fun _ _ alike => .inr ⟨kind_eq alike, alike⟩⟩

/-- Two ways to go on are followed if both are. -/
theorem follows_ite {test : Prop} [Decidable test] {yes yes' no no' : Parser α}
    (followsYes : comparison.Follows yes yes') (followsNo : comparison.Follows no no') :
    comparison.Follows (if test then yes else no) (if test then yes' else no') := by
  split
  · exact followsYes
  · exact followsNo

/-- Two ways to go on, chosen by looking ahead, are followed if both are and the leader is lost
wherever looking ahead tells the feeds apart. -/
theorem follows_ahead {tests : List (Token → Bool)} {yes yes' no no' : Parser α}
    (same : ∀ feed other, comparison.like feed other →
      other.startsWith tests = feed.startsWith tests ∨
        comparison.Lost ((do if ← Parser.ahead tests then yes else no : Parser α) feed))
    (followsYes : comparison.Follows yes yes') (followsNo : comparison.Follows no no') :
    comparison.Follows (do if ← Parser.ahead tests then yes else no)
      (do if ← Parser.ahead tests then yes' else no') := by
  constructor
  · intro feed
    rw [Parser.bind_apply, Parser.ahead_apply, Outcome.accepted_andThen]
    split
    · exact followsYes.narrows feed
    · exact followsNo.narrows feed
  · intro feed other alike
    rcases same feed other alike with same | lost
    · rw [Parser.bind_apply, Parser.ahead_apply, Outcome.accepted_andThen, Parser.bind_apply,
        Parser.ahead_apply, Outcome.accepted_andThen, same]
      split
      · exact followsYes.agree feed other alike
      · exact followsNo.agree feed other alike
    · exact .inl lost

/-- A repetition leaves no more than it was given. -/
theorem narrows_many {go : Feed → Bool} {item : Parser α} (narrows : Narrows item)
    (shrinks : Parser.Shrinks go item) : Narrows (Parser.many go item) := by
  intro feed
  induction size : feed.size using Nat.strongRecOn generalizing feed with
  | ind bound ih =>
    have smaller := narrows feed
    rw [Parser.many_eq shrinks]
    by_cases goes : go feed = true
    · rw [if_pos goes]
      cases result : item feed with
      | rejected error stop =>
        rw [result] at smaller
        exact size ▸ smaller
      | accepted value rest =>
        have fewer := shrinks _ _ _ goes result
        have least := ih rest.size (by omega) rest rfl
        rw [Outcome.accepted_andThen, Parser.bind_apply]
        cases behind : Parser.many go item rest with
        | accepted values last =>
          rw [behind] at least
          exact Nat.le_trans least (by omega)
        | rejected error stop =>
          rw [behind] at least
          exact Nat.le_trans least (by omega)
    · rw [if_neg goes]
      exact Nat.le_of_eq size

/-- A repetition is followed if each round is. -/
theorem follows_many {go : Feed → Bool} {item item' : Parser α}
    (same : ∀ feed other, comparison.like feed other → go other = go feed)
    (follows : comparison.Follows item item') (shrinks : Parser.Shrinks go item)
    (shrinks' : Parser.Shrinks go item') :
    comparison.Follows (Parser.many go item) (Parser.many go item') := by
  have narrows := narrows_many follows.narrows shrinks
  refine ⟨narrows, fun feed other alike => ?_⟩
  induction size : feed.size using Nat.strongRecOn generalizing feed other with
  | ind bound ih =>
    rw [Parser.many_eq shrinks, Parser.many_eq shrinks', same feed other alike]
    by_cases goes : go feed = true
    · rw [if_pos goes, if_pos goes]
      refine agree_andThen (follows.agree feed other alike)
        (fun value => narrows.bind fun values => narrows_pure _) ?_
      intro value rest behind accepted alikeRest
      have fewer := shrinks _ _ _ goes accepted
      rw [Parser.bind_apply, Parser.bind_apply]
      refine agree_andThen (ih rest.size (by omega) rest behind alikeRest rfl)
        (fun values => narrows_pure _) ?_
      intro values last behind' _ alikeLast
      exact .inr ⟨rfl, alikeLast⟩
    · rw [if_neg goes, if_neg goes]
      exact .inr ⟨rfl, alike⟩

end Comparison

end Cpplet

import Cpplet.Feed
import Cpplet.SourceError

/-!
# Parsers

A parser takes a feed of tokens and either accepts a beginning of it, with a value and the feed
that is left, or rejects it with an error and the feed where it stopped. Moving past a token
reads the one behind it, so it fails where that one cannot be read; the feed then stays where it
was. Looking ahead is a question to the feed and moves nothing.

`many` is the only loop of the grammar: it repeats a parser as long as the lookahead passes a
test. A parser that it repeats takes a token each time, so the feed itself is long enough to
count the rounds.

The grammar is written once, for all that is `ParserLike`: for parsers, and for parsers that count
how deep they are nested.
-/

namespace Cpplet

/-- What a parser makes of a feed. -/
inductive Outcome (α : Type) where
  /-- A value and the feed that is left. -/
  | accepted (value : α) (rest : Feed)
  /-- An error and the feed where the parser stopped. -/
  | rejected (error : SourceError) (stop : Feed)

/-- A reader of values off the front of a feed. -/
def Parser (α : Type) : Type := Feed → Outcome α

namespace Parser

variable {α β : Type}

/-- Accept nothing, with a value. -/
def pure (value : α) : Parser α := fun feed => .accepted value feed

/-- One parser and then another that depends on the value of the first. -/
def bind (first : Parser α) (second : α → Parser β) : Parser β := fun feed =>
  match first feed with
  | .accepted value rest => second value rest
  | .rejected error stop => .rejected error stop

instance : Monad Parser where
  pure := Parser.pure
  bind := Parser.bind

/-- A value takes no token. -/
@[simp]
theorem pure_apply (value : α) (feed : Feed) :
    (Pure.pure value : Parser α) feed = .accepted value feed := rfl

/-- A rejection ends everything. -/
theorem bind_rejected {first : Parser α} {second : α → Parser β} {feed stop : Feed}
    {error : SourceError} (rejected : first feed = .rejected error stop) :
    (first >>= second) feed = .rejected error stop := by
  show Parser.bind first second feed = .rejected error stop
  rw [Parser.bind, rejected]

/-- Reject the feed where something is expected that the lookahead is not. -/
def unexpected (expected : Expectation) : Parser α := fun feed =>
  .rejected (.grammatical ⟨.unexpected expected feed.current, feed.current.location⟩) feed

/-- Reject the feed where the nesting goes deeper than is followed. -/
def tooDeep (nested : Nesting) : Parser α := fun feed =>
  .rejected (.grammatical ⟨.tooDeep nested, feed.current.location⟩) feed

/-- The kind of the lookahead. -/
def kind : Parser Kind := fun feed => .accepted feed.kind feed

/-- Whether the tokens from the lookahead on pass a sequence of tests. -/
def ahead (tests : List (Token → Bool)) : Parser Bool := fun feed =>
  .accepted (feed.startsWith tests) feed

/-- One of two parsers, by a test of the feed. -/
def choose (test : Feed → Bool) (accepted refused : Parser α) : Parser α := fun feed =>
  if test feed then accepted feed else refused feed

/-- Move past the lookahead, whatever it is. -/
def advance : Parser Token := fun feed =>
  match feed.next with
  | .ok rest => .accepted feed.current rest
  | .error fault => .rejected (.lexical fault.error) feed

/-- Move past the lookahead if its kind passes a test. -/
def satisfy (test : Kind → Bool) (expected : Expectation) : Parser Token := fun feed =>
  if test feed.kind then advance feed else unexpected expected feed

/-- Move past a token of one kind. -/
def eat (kind : Kind) : Parser Token := satisfy (· = kind) (.kind kind)

/-- Move past a reserved word. -/
def word (keyword : Keyword) : Parser Token := eat (.keyword keyword)

/-- Move past a mark. -/
def mark (symbol : Mark) : Parser Token := eat (.mark symbol)

/-- Repeat a parser as long as the lookahead passes a test, over at most one more round than
`rounds` is long. -/
def manyWithin (go : Feed → Bool) (item : Parser α) (rounds : Feed) : Parser (List α) :=
  fun feed =>
    if go feed then
      match item feed with
      | .rejected error stop => .rejected error stop
      | .accepted value rest =>
        match rounds with
        | .more _ rounds =>
          match manyWithin go item rounds rest with
          | .accepted values rest => .accepted (value :: values) rest
          | .rejected error stop => .rejected error stop
        | _ => .accepted [value] rest
    else .accepted [] feed

/-- Repeat a parser as long as the lookahead passes a test. -/
def many (go : Feed → Bool) (item : Parser α) : Parser (List α) := fun feed =>
  manyWithin go item feed feed

end Parser

/-- What a grammar can be written in: parsers, or parsers that carry something along. Everything
but these three is put together in the same way for all of them. -/
class ParserLike (m : Type → Type) extends Monad m where
  /-- A parser that leaves alone what is carried along. -/
  lift {α : Type} : Parser α → m α
  /-- One of two parsers, by a test of the feed. -/
  choose {α : Type} : (Feed → Bool) → m α → m α → m α
  /-- Repeat a parser as long as the lookahead passes a test. -/
  many {α : Type} : (Feed → Bool) → m α → m (List α)

namespace ParserLike

variable {m : Type → Type} [ParserLike m] {α : Type}

instance : MonadLift Parser m := ⟨lift⟩

instance : ParserLike Parser where
  lift parser := parser
  choose := Parser.choose
  many := Parser.many

/-- A parser carries nothing along that it could leave alone. -/
@[simp]
theorem liftM_self (parser : Parser α) : (liftM parser : Parser α) = parser := rfl

/-- The choice between two parsers. -/
@[simp]
theorem choose_self (test : Feed → Bool) (accepted refused : Parser α) :
    choose test accepted refused = Parser.choose test accepted refused := rfl

/-- The repetition of a parser. -/
@[simp]
theorem many_self (go : Feed → Bool) (item : Parser α) : many go item = Parser.many go item := rfl

/-- Repeat a parser as long as the lookahead is of one kind. -/
def manyAt (kind : Kind) (item : m α) : m (List α) := many (·.kind = kind) item

end ParserLike

end Cpplet

import Cpplet.Proofs.Parsers
import Cpplet.Grammar.Program

/-!
# The grammar with a counter

The budget of levels is an argument of the grammar, so that it cannot be used up by what was read
before. Here the same grammar keeps a counter instead: `nested` counts up before it reads one level
deeper and counts down afterwards, whatever came of it, and refuses to read deeper where the
counter has reached the limit. Nothing else looks at the counter, but everything hands it on, and
a level that was not given back would be missing for all that follows. The counter also remembers
the greatest depth that it has shown.

Nothing in the text bounds how often the grammar calls itself, so the recursion is over a number of
calls, and there is no result where these run out. That they do not run out is for the counter to
ensure.
-/

namespace Cpplet

variable {α β : Type}

/-- How deep the nesting is, and how deep it has been. -/
structure Gauge where
  /-- The levels that are open. -/
  depth : Nat
  /-- The most levels that were open at one time. -/
  peak : Nat
deriving DecidableEq, Repr

namespace Gauge

/-- Open a level. -/
def deeper (gauge : Gauge) : Gauge := ⟨gauge.depth + 1, max gauge.peak (gauge.depth + 1)⟩

/-- Close a level. -/
def shallower (gauge : Gauge) : Gauge := { gauge with depth := gauge.depth - 1 }

end Gauge

/-- A parser that hands a gauge on, if its calls do not run out. -/
def Counted (α : Type) : Type := Gauge → Feed → Option (Outcome α × Gauge)

namespace Counted

open Grammar (conditional castOr ladder additiveLevels statementOf)
open Cpplet.Parser (tooDeep)

/-- Accept nothing, with a value. -/
def pure (value : α) : Counted α := fun gauge feed => some (.accepted value feed, gauge)

/-- One parser and then another, which gets the gauge as the first leaves it. -/
def bind (first : Counted α) (second : α → Counted β) : Counted β := fun gauge feed =>
  match first gauge feed with
  | none => none
  | some (.accepted value rest, gauge) => second value gauge rest
  | some (.rejected error stop, gauge) => some (.rejected error stop, gauge)

instance : Monad Counted where
  pure := Counted.pure
  bind := Counted.bind

/-- A parser that does not know of the gauge. -/
def lift (parser : Parser α) : Counted α := fun gauge feed => some (parser feed, gauge)

/-- One of two parsers, by a test of the feed. -/
def choose (test : Feed → Bool) (accepted refused : Counted α) : Counted α := fun gauge feed =>
  if test feed then accepted gauge feed else refused gauge feed

/-- Repeat a parser as long as the lookahead passes a test, over at most one more round than
`rounds` is long. -/
def manyWithin (go : Feed → Bool) (item : Counted α) (rounds : Feed) : Counted (List α) :=
  fun gauge feed =>
    if go feed then
      match item gauge feed with
      | none => none
      | some (.rejected error stop, gauge) => some (.rejected error stop, gauge)
      | some (.accepted value rest, gauge) =>
        match rounds with
        | .more _ rounds =>
          match manyWithin go item rounds gauge rest with
          | none => none
          | some (.accepted values rest, gauge) => some (.accepted (value :: values) rest, gauge)
          | some (.rejected error stop, gauge) => some (.rejected error stop, gauge)
        | _ => some (.accepted [value] rest, gauge)
    else some (.accepted [] feed, gauge)

/-- Repeat a parser as long as the lookahead passes a test. -/
def many (go : Feed → Bool) (item : Counted α) : Counted (List α) := fun gauge feed =>
  manyWithin go item feed gauge feed

/-- The grammar can be written with a gauge. -/
instance : ParserLike Counted where
  lift := Counted.lift
  choose := Counted.choose
  many := Counted.many

/-- Read one level deeper and come back, unless the limit is reached. -/
def nested (limit : Nat) (what : Nesting) (inner : Counted α) : Counted α := fun gauge feed =>
  if limit ≤ gauge.depth then some (tooDeep what feed, gauge)
  else
    match inner gauge.deeper feed with
    | none => none
    | some (outcome, gauge) => some (outcome, gauge.shallower)

mutual

/-- An expression. -/
def expr (limit : Nat) : Nat → Counted Expr
  | 0 => fun _ _ => none
  | calls + 1 => nested limit .expression (conditional (expr limit calls) (operand limit calls))

/-- An operand of a binary operator. -/
def operand (limit : Nat) : Nat → Counted Expr
  | 0 => fun _ _ => none
  | calls + 1 => nested limit .expression (castOr (expr limit calls) (operand limit calls))

end

/-- A statement. -/
def statement (limit : Nat) : Nat → Counted Stmt
  | 0 => fun _ _ => none
  | calls + 1 =>
    nested limit .statement
      (statementOf (expr limit calls) (ladder (operand limit calls) additiveLevels)
        (statement limit calls))

end Counted

end Cpplet

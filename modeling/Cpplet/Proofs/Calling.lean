import Cpplet.Proofs.Echoing

/-!
# The calls that the grammar makes

Statements, expressions and the levels of binary operators are parsed by routines that call one
another, and some of these calls are made before a token is passed. Each routine is written here
over whatever it calls (`body`), and so it can be asked which answers it needs: only those to calls
with fewer tokens left, or with as many and less of the budget, or with as much of that too and
fewer levels of operators. Since nothing descends forever in this order, the routines are the only
parsers that call one another in this way.
-/

namespace Cpplet.Grammar

open Cpplet.Parser

/-- The parsers that call one another. -/
inductive Routine where
  /-- Statements. -/
  | statement
  /-- Expressions. -/
  | expr
  /-- Operands with binary operators of some levels between them, or without any. -/
  | ladder (levels : List (List Mark))
deriving DecidableEq

namespace Routine

/-- What a routine parses. -/
abbrev Tree : Routine → Type
  | .statement => Stmt
  | .expr => Expr
  | .ladder _ => Expr

/-- How many levels of binary operators are still to be gone down. -/
def position : Routine → Nat
  | .statement => 0
  | .expr => 0
  | .ladder levels => levels.length

end Routine

/-- Parsers for all routines, within each budget of levels. -/
abbrev Callees : Type := ∀ routine : Routine, Nat → Parser routine.Tree

/-- The parsers of the grammar. -/
def parsers : Callees
  | .statement => statement
  | .expr => expr
  | .ladder levels => fun budget => ladder (operand budget) levels

/-- What a routine does, given the parsers that it calls. -/
def body (callees : Callees) : Callees
  | .statement, 0 => tooDeep .statement
  | .statement, budget + 1 =>
    statementOf (callees .expr budget) (callees (.ladder additiveLevels) budget)
      (callees .statement budget)
  | .expr, 0 => tooDeep .expression
  | .expr, budget + 1 => chosen (callees (.ladder binaryLevels) budget) (callees .expr budget)
  | .ladder [], 0 => tooDeep .expression
  | .ladder [], budget + 1 => castOr (callees .expr budget) (callees (.ladder []) budget)
  | .ladder (marks :: tighter), budget => level marks (callees (.ladder tighter) budget)

/-- The parsers of the grammar do what they are written to do. -/
theorem body_parsers (routine : Routine) (budget : Nat) :
    body parsers routine budget = parsers routine budget := by
  cases routine with
  | statement => cases budget <;> rfl
  | expr => cases budget <;> rfl
  | ladder levels =>
    cases levels with
    | nil => cases budget <;> rfl
    | cons marks tighter => rfl

/-- The parsers of the grammar echo themselves. -/
theorem echoes_parsers {fence : Option Fault} {bound : Nat} (routine : Routine) (budget : Nat) :
    Echoes fence bound (parsers routine budget) (parsers routine budget) := by
  cases routine with
  | statement => exact echoes_statement budget
  | expr => exact echoes_expr budget
  | ladder levels => exact echoes_ladder (echoes_expr_operand budget).2 levels

/-- A call of a routine: what it may still spend, and the feed that it is to parse. -/
structure Call where
  /-- The routine. -/
  routine : Routine
  /-- How many levels may still be opened. -/
  budget : Nat
  /-- The feed. -/
  feed : Feed
deriving DecidableEq

namespace Call

variable {call later : Call} {callees : Callees}

/-- What some parsers make of a call. -/
def answer (callees : Callees) (call : Call) : Outcome call.routine.Tree :=
  callees call.routine call.budget call.feed

/-- What a routine makes of a call if it asks some parsers for the calls that it makes itself. -/
def run (callees : Callees) (call : Call) : Outcome call.routine.Tree :=
  body callees call.routine call.budget call.feed

/-- What is left to do at a call: tokens to pass, levels to open, levels of operators to go down. -/
def measure (call : Call) : Nat × Nat × Nat :=
  (call.feed.size, call.budget, call.routine.position)

/-- Whether less is left to do at one call than at another. -/
def Below (later call : Call) : Prop :=
  Prod.Lex (· < ·) (Prod.Lex (· < ·) (· < ·)) later.measure call.measure

/-- No calls descend forever. -/
theorem wellFounded_below : WellFounded Below :=
  InvImage.wf measure
    (Prod.lex ⟨_, Nat.lt_wfRel.wf⟩ (Prod.lex ⟨_, Nat.lt_wfRel.wf⟩ ⟨_, Nat.lt_wfRel.wf⟩)).wf

/-- A call with no more tokens left is below if it has less of the budget, or as much and fewer
levels of operators. -/
theorem below_of_le (small : later.feed.size ≤ call.feed.size)
    (lower : Prod.Lex (· < ·) (· < ·) (later.budget, later.routine.position)
      (call.budget, call.routine.position)) : later.Below call := by
  rcases Nat.lt_or_eq_of_le small with fewer | same
  · exact .left _ _ fewer
  · rw [Below, measure, measure, same]
    exact .right _ lower

/-- What a routine makes of a call is settled by what is made of the calls below. -/
theorem run_eq_of_agree (agree : ∀ later : Call, later.Below call →
      later.answer callees = later.answer parsers) :
    call.run callees = call.answer parsers := by
  obtain ⟨routine, budget, feed⟩ := call
  -- What is called within less of the budget, or on fewer levels, agrees on all feeds left to it.
  have lower (other : Routine) (less : Nat)
      (descends : Prod.Lex (· < ·) (· < ·) (less, other.position) (budget, routine.position)) :
      Echoes none feed.size (parsers other less) (callees other less) :=
    (echoes_parsers other less).of_eq fun rest small =>
      agree ⟨other, less, rest⟩ (below_of_le small descends)
  have echoes :
      Echoes none feed.size (body parsers routine budget) (body callees routine budget) := by
    cases routine with
    | statement =>
      cases budget with
      | zero => exact echoes_tooDeep _
      | succ budget =>
        have inner (other : Routine) := lower other budget (.left _ _ (Nat.lt_succ_self budget))
        exact echoes_statementOf (inner .expr) (inner (.ladder additiveLevels)) (inner .statement)
    | expr =>
      cases budget with
      | zero => exact echoes_tooDeep _
      | succ budget =>
        have inner (other : Routine) := lower other budget (.left _ _ (Nat.lt_succ_self budget))
        exact echoes_chosen (inner (.ladder binaryLevels)) (inner .expr)
    | ladder levels =>
      cases levels with
      | cons marks tighter =>
        exact echoes_level marks (lower (.ladder tighter) budget (.right _ (Nat.lt_succ_self _)))
      | nil =>
        cases budget with
        | zero => exact echoes_tooDeep _
        | succ budget =>
          have inner (other : Routine) := lower other budget (.left _ _ (Nat.lt_succ_self budget))
          exact echoes_castOr (inner .expr) (inner (.ladder []))
  rw [answer, ← body_parsers]
  exact (echoes feed (Nat.le_refl _)).eq

/-- The parsers of the grammar are the only ones that call one another as the routines do. -/
theorem answer_eq_of_solves (solves : ∀ call : Call, call.answer callees = call.run callees)
    (call : Call) : call.answer callees = call.answer parsers := by
  induction call using wellFounded_below.induction with
  | _ call ih =>
    rw [solves]
    exact run_eq_of_agree ih

end Call

/-- The parsers of the grammar, but with a rejection of one call. -/
def planted (site : Call) (error : SourceError) : Callees := fun routine budget feed =>
  if (⟨routine, budget, feed⟩ : Call) = site then .rejected error feed
  else parsers routine budget feed

namespace Call

variable {call later : Call}

/-- Whether a call makes another. A rejection ends everything, so the other is made if whatever it
is rejected with comes out in the end. -/
def Makes (call later : Call) : Prop :=
  ∀ error : SourceError, call.run (planted later error) = .rejected error later.feed

/-- Less is left to do at a call than at the one that makes it. -/
theorem Makes.below (makes : call.Makes later) : later.Below call := by
  refine Classical.byContradiction fun aside => ?_
  -- A rejection that is not below shows nowhere, so two of them come to the same.
  have hidden (error : SourceError) : .rejected error later.feed = call.answer parsers := by
    rw [← makes error]
    refine run_eq_of_agree fun other below => if_neg fun same => aside ?_
    exact same ▸ below
  have same := (hidden (.grammatical ⟨.tooDeep .statement, .start⟩)).trans
    (hidden (.grammatical ⟨.tooDeep .expression, .start⟩)).symm
  cases same

/-- No calls make others forever. -/
theorem wellFounded_makes : WellFounded fun later call : Call => call.Makes later :=
  Subrelation.wf Makes.below wellFounded_below

/-- An expression calls for its condition before a token is passed. -/
theorem makes_condition (budget : Nat) (feed : Feed) :
    Makes ⟨.expr, budget + 1, feed⟩ ⟨.ladder binaryLevels, budget, feed⟩ := by
  intro error
  exact bind_rejected (if_pos rfl)

/-- A level of operators calls for the next tighter one before a token is passed. -/
theorem makes_tighter (marks : List Mark) (tighter : List (List Mark)) (budget : Nat)
    (feed : Feed) :
    Makes ⟨.ladder (marks :: tighter), budget, feed⟩ ⟨.ladder tighter, budget, feed⟩ := by
  intro error
  exact bind_rejected (if_pos rfl)

end Call

end Cpplet.Grammar

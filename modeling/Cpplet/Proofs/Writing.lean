import Cpplet.Grammar.Expr
import Cpplet.Proofs.Languages

/-!
# How expressions are written

An expression is written at a rank, which says how tightly it has to bind where it stands. The
choice between two expressions has rank 0 and joins to the right; the binary operators have the
ranks 1 to 10 and join to the left; then come casts, signs and steps, and last what needs no
parentheses anywhere. What binds tighter may stand where less is asked for, and parentheses may
stand around anything, any number of times.

The cost of a writing is how many levels are open at once at its deepest place, the level of the
whole expression not counted. A level is opened by an expression between parentheses or on either
side of a colon, and by every operand of a binary operator, a sign or a cast.
-/

namespace Cpplet

namespace Mark

/-- How tightly a binary operator binds. -/
def tightness : Mark → Option Nat
  | .orOr => some 1
  | .andAnd => some 2
  | .pipe => some 3
  | .caret => some 4
  | .ampersand => some 5
  | .equal | .notEqual => some 6
  | .less | .greater | .lessEqual | .greaterEqual => some 7
  | .shiftLeft | .shiftRight => some 8
  | .plus | .minus => some 9
  | .star | .slash | .percent => some 10
  | _ => none

/-- The marks that step a variable. -/
def isStep : Mark → Bool
  | .increment | .decrement => true
  | _ => false

/-- The marks that stand before their only operand and are no steps. -/
def isSign : Mark → Bool
  | .plus | .minus | .bang | .tilde | .ampersand => true
  | _ => false

end Mark

namespace Rank

/-- The rank of a choice between two expressions. -/
abbrev choice : Nat := 0

/-- The rank of a sum. -/
abbrev additive : Nat := 9

/-- The rank of a cast. -/
abbrev cast : Nat := 11

/-- The rank of an expression that begins with a step or a sign. -/
abbrev sign : Nat := 12

/-- The rank of an expression that ends with a step. -/
abbrev step : Nat := 13

/-- The rank of what needs no parentheses. -/
abbrev primary : Nat := 14

end Rank

/-- Tokens that write an expression at a rank, with the levels that this opens. -/
inductive Writes : Nat → List Token → Expr → Nat → Prop where
  /-- A variable. -/
  | name {token : Token} (kind : token.kind = .name) :
      Writes Rank.primary [token] (.name token) 0
  /-- A constant that is a number. -/
  | number {token : Token}
      (kind : token.kind = .integer ∨ token.kind = .float ∨ token.kind = .char) :
      Writes Rank.primary [token] (.number token) 0
  /-- A constant that is a text. -/
  | string {token : Token} (kind : token.kind = .string) :
      Writes Rank.primary [token] (.string token) 0
  /-- A truth value. -/
  | truth {token : Token}
      (kind : token.kind = .keyword .trueWord ∨ token.kind = .keyword .falseWord) :
      Writes Rank.primary [token] (.truth token) 0
  /-- Any expression between parentheses. -/
  | paren {left right : Token} {tokens : List Token} {expr : Expr} {cost : Nat}
      (opening : left.kind = .mark .leftParen) (inner : Writes Rank.choice tokens expr cost)
      (closing : right.kind = .mark .rightParen) :
      Writes Rank.primary (left :: (tokens ++ [right])) expr (cost + 1)
  /-- A step behind its operand. -/
  | postStep {op : Token} {symbol : Mark} {tokens : List Token} {expr : Expr} {cost : Nat}
      (inner : Writes Rank.primary tokens expr cost) (kind : op.kind = .mark symbol)
      (step : symbol.isStep = true) :
      Writes Rank.step (tokens ++ [op]) (.postStep expr op) cost
  /-- A step before its operand. -/
  | preStep {op : Token} {symbol : Mark} {tokens : List Token} {expr : Expr} {cost : Nat}
      (kind : op.kind = .mark symbol) (step : symbol.isStep = true)
      (inner : Writes Rank.step tokens expr cost) :
      Writes Rank.sign (op :: tokens) (.preStep op expr) cost
  /-- A sign before its operand. -/
  | unary {op : Token} {symbol : Mark} {tokens : List Token} {expr : Expr} {cost : Nat}
      (kind : op.kind = .mark symbol) (sign : symbol.isSign = true)
      (inner : Writes Rank.cast tokens expr cost) :
      Writes Rank.sign (op :: tokens) (.unary op expr) cost
  /-- An operand that is no cast. -/
  | operand {tokens : List Token} {expr : Expr} {cost : Nat}
      (inner : Writes Rank.sign tokens expr cost) : Writes Rank.cast tokens expr (cost + 1)
  /-- A cast whose type stands in parentheses. -/
  | cast {left type right : Token} {tokens : List Token} {expr : Expr} {cost : Nat}
      (opening : left.kind = .mark .leftParen) (kind : type.kind.isType = true)
      (closing : right.kind = .mark .rightParen) (inner : Writes Rank.cast tokens expr cost) :
      Writes Rank.cast (left :: type :: right :: tokens) (.cast type expr) (cost + 1)
  /-- A cast whose operand stands in parentheses. -/
  | call {type left right : Token} {tokens : List Token} {expr : Expr} {cost : Nat}
      (kind : type.kind.isType = true) (opening : left.kind = .mark .leftParen)
      (inner : Writes Rank.choice tokens expr cost) (closing : right.kind = .mark .rightParen) :
      Writes Rank.cast (type :: left :: (tokens ++ [right])) (.cast type expr) (cost + 2)
  /-- A binary operator, which joins to the left. -/
  | binary {rank : Nat} {op : Token} {symbol : Mark} {front behind : List Token}
      {left right : Expr} {costLeft costRight : Nat} (first : Writes rank front left costLeft)
      (kind : op.kind = .mark symbol) (tight : symbol.tightness = some rank)
      (second : Writes (rank + 1) behind right costRight) :
      Writes rank (front ++ op :: behind) (.binary left op right) (max costLeft costRight)
  /-- A choice, which joins to the right. -/
  | conditional {question colon : Token} {front middle behind : List Token}
      {condition whenTrue whenFalse : Expr} {costCondition costTrue costFalse : Nat}
      (test : Writes 1 front condition costCondition) (asks : question.kind = .mark .question)
      (first : Writes Rank.choice middle whenTrue costTrue) (parts : colon.kind = .mark .colon)
      (second : Writes Rank.choice behind whenFalse costFalse) :
      Writes Rank.choice (front ++ question :: (middle ++ colon :: behind))
        (.conditional condition whenTrue whenFalse)
        (max costCondition (max (costTrue + 1) (costFalse + 1)))
  /-- What binds tighter. An operand opens a level, so this passes by the rank of casts. -/
  | tighter {rank : Nat} {tokens : List Token} {expr : Expr} {cost : Nat}
      (other : rank ≠ Rank.cast) (inner : Writes (rank + 1) tokens expr cost) :
      Writes rank tokens expr cost

namespace Writes

/-- What is written at a rank is written at every looser binary rank and as a choice. -/
theorem loosen {rank : Nat} {tokens : List Token} {expr : Expr} {cost : Nat}
    (inner : Writes rank tokens expr cost) (bound : rank ≤ Rank.cast) (looser : Nat)
    (below : looser ≤ rank) : Writes looser tokens expr cost := by
  induction rank with
  | zero =>
    obtain rfl : looser = 0 := by omega
    exact inner
  | succ rank ih =>
    by_cases same : looser = rank + 1
    · rw [same]
      exact inner
    · exact ih (.tighter (by omega) inner) (by omega) (by omega)

end Writes

/-- The expressions that are written at a rank. -/
def written (rank : Nat) : Language Expr := fun tokens expr =>
  ∃ cost, Writes rank tokens expr cost

end Cpplet

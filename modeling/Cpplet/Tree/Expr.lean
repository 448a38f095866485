import Cpplet.Token.Basic

/-!
# Expressions

An expression keeps the tokens that it was written with: leaves and operators are tokens, and
parentheses leave no trace. An expression always has a place, that of its first token which is no
parenthesis.
-/

namespace Cpplet

/-- Expressions. -/
inductive Expr where
  /-- A variable. -/
  | name (token : Token)
  /-- An integer, floating-point or character constant. -/
  | number (token : Token)
  /-- A string constant. -/
  | string (token : Token)
  /-- A truth value. -/
  | truth (token : Token)
  /-- A sign, a negation or an address. -/
  | unary (op : Token) (operand : Expr)
  /-- A conversion to the type that a token names. -/
  | cast (type : Token) (operand : Expr)
  /-- A step before the value is taken. -/
  | preStep (op : Token) (operand : Expr)
  /-- A step after the value is taken. -/
  | postStep (operand : Expr) (op : Token)
  /-- An operator between its operands. -/
  | binary (left : Expr) (op : Token) (right : Expr)
  /-- A choice between two expressions. -/
  | conditional (condition whenTrue whenFalse : Expr)
deriving DecidableEq, Repr

/-- The place of an expression. -/
def Expr.location : Expr → Location
  | .name token => token.location
  | .number token => token.location
  | .string token => token.location
  | .truth token => token.location
  | .unary op _ => op.location
  | .cast type _ => type.location
  | .preStep op _ => op.location
  | .postStep operand _ => operand.location
  | .binary left _ _ => left.location
  | .conditional condition _ _ => condition.location

end Cpplet

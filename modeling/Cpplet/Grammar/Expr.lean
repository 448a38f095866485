import Cpplet.Grammar.Parser
import Cpplet.Tree.Expr

/-!
# The grammar of expressions

Binary operators bind in ten levels, all of them to the left; the conditional operator binds
loosest and to the right; casts, signs and steps bind tighter than every binary operator. A cast
is written `(type) operand` or `type(expression)`, and three tokens of lookahead tell the first
form from a parenthesis and two the second.

Nesting is followed only so far. The budget is how many levels may still be opened: an expression
and the operand of a cast or sign each open one, so every function here is defined by recursion
on it.
-/

namespace Cpplet.Grammar

open Cpplet.Parser hiding choose many
open ParserLike

variable {m : Type → Type} [ParserLike m]

/-- The binary operators by level, those that bind loosest first. -/
def binaryLevels : List (List Mark) :=
  [[.orOr], [.andAnd], [.pipe], [.caret], [.ampersand], [.equal, .notEqual],
    [.less, .greater, .lessEqual, .greaterEqual], [.shiftLeft, .shiftRight], [.plus, .minus],
    [.star, .slash, .percent]]

/-- The operators that step a variable up or down. -/
def stepMarks : List Mark := [.increment, .decrement]

/-- The operators before their only operand that are no steps. -/
def signMarks : List Mark := [.plus, .minus, .bang, .tilde, .ampersand]

/-- The levels that bind tighter than a shift. -/
def additiveLevels : List (List Mark) := binaryLevels.drop 8

/-- Whether a kind is one of some marks. -/
def isOneOf (marks : List Mark) : Kind → Bool
  | .mark symbol => marks.contains symbol
  | _ => false

/-- Operands joined from the left. -/
def joinLeft (first : Expr) (others : List (Token × Expr)) : Expr :=
  others.foldl (fun left (op, right) => .binary left op right) first

/-- An operator and the operand behind it. -/
def operation (operand : m Expr) : m (Token × Expr) := do
  let op ← advance
  let right ← operand
  return (op, right)

/-- Operands with operators of one level between them. -/
def level (marks : List Mark) (operand : m Expr) : m Expr := do
  let first ← operand
  let others ← many (fun feed => isOneOf marks feed.kind) (operation operand)
  return joinLeft first others

/-- Operands with operators of several levels between them, the first of which binds loosest. -/
def ladder (operand : m Expr) : List (List Mark) → m Expr
  | [] => operand
  | marks :: tighter => level marks (ladder operand tighter)

/-- A variable. -/
def name : Parser Token := eat .name

/-- The word that names a type. -/
def typeWord : Parser Token := satisfy Kind.isType .type

/-- A constant. -/
def constant : Parser Expr := do
  match ← kind with
  | .integer | .float | .char => return .number (← advance)
  | .string => return .string (← advance)
  | .keyword .trueWord | .keyword .falseWord => return .truth (← advance)
  | _ => unexpected .constant

/-- A constant, a variable or an expression in parentheses. -/
def primary (expr : m Expr) : m Expr := do
  match ← kind with
  | .mark .leftParen =>
    let _ ← mark .leftParen
    let inner ← expr
    let _ ← mark .rightParen
    return inner
  | .name => return .name (← name)
  | .integer | .float | .char | .string | .keyword .trueWord | .keyword .falseWord => constant
  | _ => unexpected .expression

/-- A primary expression, with or without a step behind it. -/
def stepped (expr : m Expr) : m Expr := do
  let operand ← primary expr
  if isOneOf stepMarks (← kind) then return .postStep operand (← advance)
  else return operand

/-- An expression that may begin with a step or a sign. -/
def signed (expr operand : m Expr) : m Expr := do
  let kind ← kind
  if isOneOf stepMarks kind then
    let op ← advance
    return .preStep op (← stepped expr)
  else if isOneOf signMarks kind then
    let op ← advance
    return .unary op (← operand)
  else stepped expr

/-- Whether a token is of one kind. -/
def isKind (kind : Kind) (token : Token) : Bool := token.kind = kind

/-- Whether a token names a type. -/
def isTypeWord (token : Token) : Bool := token.kind.isType

/-- The tokens `(type)`. -/
def castAhead : List (Token → Bool) :=
  [isKind (.mark .leftParen), isTypeWord, isKind (.mark .rightParen)]

/-- The tokens `type(`. -/
def callAhead : List (Token → Bool) := [isTypeWord, isKind (.mark .leftParen)]

/-- An operand of a binary operator: a cast in either form, or an expression without one. -/
def castOr (expr operand : m Expr) : m Expr := do
  if ← ahead castAhead then
    let _ ← mark .leftParen
    let type ← typeWord
    let _ ← mark .rightParen
    return .cast type (← operand)
  else if ← ahead callAhead then
    let type ← typeWord
    let _ ← mark .leftParen
    let inner ← expr
    let _ ← mark .rightParen
    return .cast type inner
  else signed expr operand

/-- An expression with binary operators, and a choice where a question mark follows it. -/
def conditional (expr operand : m Expr) : m Expr := do
  let condition ← ladder operand binaryLevels
  if (← kind) = .mark .question then
    let _ ← mark .question
    let whenTrue ← expr
    let _ ← mark .colon
    return .conditional condition whenTrue (← expr)
  else return condition

mutual

/-- An expression, within a budget of levels. -/
def expr : Nat → Parser Expr
  | 0 => tooDeep .expression
  | budget + 1 => conditional (expr budget) (operand budget)

/-- An operand of a binary operator, within a budget of levels. -/
def operand : Nat → Parser Expr
  | 0 => tooDeep .expression
  | budget + 1 => castOr (expr budget) (operand budget)

end

/-- An expression without shifts, comparisons or anything that binds looser, within a budget of
levels. -/
def additive (budget : Nat) : Parser Expr := ladder (operand budget) additiveLevels

end Cpplet.Grammar

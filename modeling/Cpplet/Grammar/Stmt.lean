import Cpplet.Grammar.Expr
import Cpplet.Tree.Stmt

/-!
# The grammar of declarations and statements

Inside a block, and at the start of a `for` statement, what begins with `const` or a type is a
declaration list and everything else is a statement. An assignment is told from an expression by
its first two tokens. A statement opens one level of the budget that it shares with the
expressions inside it; the declarations of a block open none.
-/

namespace Cpplet.Grammar

open Cpplet.Parser hiding choose many
open ParserLike

variable {m : Type → Type} [ParserLike m]

/-- Whether the lookahead begins a declaration list. -/
def atDeclaration (feed : Feed) : Bool :=
  feed.kind = .keyword .constWord || feed.kind.isType

/-- The type of a declaration list. -/
def typeName : Parser TypeName := do
  if (← kind) = .keyword .constWord then
    let _ ← word .constWord
    return ⟨← typeWord, true⟩
  else return ⟨← typeWord, false⟩

/-- One declared variable, with or without an initial value. -/
def declarator (expr : m Expr) (type : TypeName) : m (List Declaration) := do
  let target ← name
  if (← kind) = .mark .assign then
    let op ← mark .assign
    let value ← expr
    return [.declare type target, .initial target op value]
  else return [.declare type target]

/-- A further variable behind its comma. -/
def nextDeclarator (expr : m Expr) (type : TypeName) : m (List Declaration) := do
  let _ ← mark .comma
  declarator expr type

/-- Variables of one type, separated by commas and ended by a semicolon. -/
def declarations (expr : m Expr) : m (List Declaration) := do
  let type ← typeName
  let first ← declarator expr type
  let others ← manyAt (.mark .comma) (nextDeclarator expr type)
  let _ ← mark .semicolon
  return first ++ others.flatten

/-- A variable and an assignment operator. -/
def assignmentAhead : List (Token → Bool) := [isKind .name, fun token => token.kind.isAssignment]

/-- An assignment or an expression, without the semicolon. -/
def assignmentOr (expr : m Expr) : m Simple := do
  if ← ahead assignmentAhead then
    let target ← name
    let op ← satisfy Kind.isAssignment .assignment
    return .assign target op (← expr)
  else return .evaluate (← expr)

/-- A simple statement with its semicolon. -/
def simple (expr : m Expr) : m Simple := do
  if (← kind) = .mark .semicolon then
    let _ ← mark .semicolon
    return .nothing
  else
    let statement ← assignmentOr expr
    let _ ← mark .semicolon
    return statement

/-- A declaration list or a statement. -/
def item (expr : m Expr) (statement : m Stmt) : m (List Stmt) :=
  choose atDeclaration
    (do return (← declarations expr).map Declaration.toStmt)
    (do return [← statement])

/-- Whether the lookahead is neither one of some kinds nor the end of the file. -/
def before (closers : List Kind) (feed : Feed) : Bool :=
  !closers.contains feed.kind && feed.kind ≠ .eof

/-- Declarations and statements up to one of some kinds or the end of the file. -/
def items (expr : m Expr) (statement : m Stmt) (closers : List Kind) :
    m (List Stmt) := do
  let groups ← many (before closers) (item expr statement)
  return groups.flatten

/-- A brace, what stands between the braces, and the closing brace. -/
def braced (expr : m Expr) (statement : m Stmt) : m (Token × List Stmt) := do
  let brace ← mark .leftBrace
  let body ← items expr statement [.mark .rightBrace]
  let _ ← mark .rightBrace
  return (brace, body)

/-- An expression in the parentheses that a keyword asks for. -/
def parenthesized (expr : m Expr) : m Expr := do
  let _ ← mark .leftParen
  let inner ← expr
  let _ ← mark .rightParen
  return inner

/-- An `if` statement; an `else` belongs to the nearest one. -/
def branch (expr : m Expr) (statement : m Stmt) : m Stmt := do
  let word ← word .ifWord
  let condition ← parenthesized expr
  let body ← statement
  if (← kind) = .keyword .elseWord then
    let _ ← Parser.word .elseWord
    return .branch word condition body (some (← statement))
  else return .branch word condition body none

/-- A loop with its test first. -/
def whileLoop (expr : m Expr) (statement : m Stmt) : m Stmt := do
  let word ← word .whileWord
  let condition ← parenthesized expr
  return .whileLoop word condition (← statement)

/-- A loop with its test last. -/
def doLoop (expr : m Expr) (statement : m Stmt) : m Stmt := do
  let word ← word .doWord
  let body ← statement
  let _ ← Parser.word .whileWord
  let condition ← parenthesized expr
  let _ ← mark .semicolon
  return .doLoop word body condition

/-- What a `for` statement begins with, through its semicolon. -/
def forStart (expr : m Expr) : m ForStart :=
  choose atDeclaration
    (do return .declarations (← declarations expr))
    (do return .simple (← simple expr))

/-- What a `for` statement does after each round; it may be missing. -/
def forAction (expr : m Expr) : m Simple := do
  if (← kind) = .mark .rightParen then return .nothing else assignmentOr expr

/-- A loop with a start, a test and an action. -/
def forLoop (expr : m Expr) (statement : m Stmt) : m Stmt := do
  let word ← word .forWord
  let _ ← mark .leftParen
  let start ← forStart expr
  let condition ← simple expr
  let action ← forAction expr
  let _ ← mark .rightParen
  return .forLoop word start condition action (← statement)

/-- A `return` statement. -/
def returnBack (expr : m Expr) : m Stmt := do
  let word ← word .returnWord
  if (← kind) = .mark .semicolon then
    let _ ← mark .semicolon
    return .returnBack word none
  else
    let value ← expr
    let _ ← mark .semicolon
    return .returnBack word (some value)

/-- The statements behind a label, up to the next label or the end of the choice. -/
def caseBody (expr : m Expr) (statement : m Stmt) : m (List Stmt) :=
  items expr statement [.keyword .caseWord, .keyword .defaultWord, .mark .rightBrace]

/-- What a case is labelled with. -/
def caseLabel : Parser Expr := do
  if (← kind) = .name then return .name (← name) else constant

/-- A label and the statements behind it. -/
def case (expr : m Expr) (statement : m Stmt) : m Case := do
  let _ ← word .caseWord
  let label ← caseLabel
  let _ ← mark .colon
  return .mk label (← caseBody expr statement)

/-- The statements for every other value, where there are any. -/
def fallback (expr : m Expr) (statement : m Stmt) : m (Option (List Stmt)) := do
  if (← kind) = .keyword .defaultWord then
    let _ ← word .defaultWord
    let _ ← mark .colon
    return some (← caseBody expr statement)
  else return none

/-- A choice between cases. -/
def switch (expr : m Expr) (statement : m Stmt) : m Stmt := do
  let word ← word .switchWord
  let condition ← parenthesized expr
  let _ ← mark .leftBrace
  let cases ← manyAt (.keyword .caseWord) (case expr statement)
  let fallback ← fallback expr statement
  let _ ← mark .rightBrace
  return .switch word condition cases fallback

/-- One printed value behind its shift operator. -/
def printItem (additive : m Expr) : m Expr := do
  let _ ← mark .shiftLeft
  additive

/-- A print statement. Its values bind tighter than a shift, so that every shift operator begins
a new one. -/
def print (additive : m Expr) : m Stmt := do
  let word ← word .coutWord
  let first ← printItem additive
  let others ← manyAt (.mark .shiftLeft) (printItem additive)
  let _ ← mark .semicolon
  return .print word (first :: others)

/-- A statement that is one keyword. -/
def single (keyword : Keyword) (build : Token → Stmt) : Parser Stmt := do
  let word ← word keyword
  let _ ← mark .semicolon
  return build word

/-- A statement, chosen by its first token. -/
def statementOf (expr additive : m Expr) (statement : m Stmt) : m Stmt := do
  match ← kind with
  | .keyword .ifWord => branch expr statement
  | .mark .leftBrace =>
    let (brace, body) ← braced expr statement
    return .block brace body
  | .keyword .whileWord => whileLoop expr statement
  | .keyword .doWord => doLoop expr statement
  | .keyword .forWord => forLoop expr statement
  | .keyword .returnWord => returnBack expr
  | .keyword .breakWord => single .breakWord .breakOut
  | .keyword .continueWord => single .continueWord .continueLoop
  | .keyword .switchWord => switch expr statement
  | .keyword .coutWord => print additive
  | _ => return .simple (← simple expr)

/-- A statement, within a budget of levels. -/
def statement : Nat → Parser Stmt
  | 0 => tooDeep .statement
  | budget + 1 => statementOf (expr budget) (additive budget) (statement budget)

end Cpplet.Grammar

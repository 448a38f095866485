import Cpplet.Tree.Expr

/-!
# Declarations and statements

A declaration list is kept as single steps: each declared variable with its type, and directly
behind it the assignment of its initial value where it has one. Statements keep the token of
their keyword or brace. Case bodies have no brace of their own and are plain lists of statements.
The place of a statement is that of its first token that is no parenthesis; an empty statement
has none.
-/

namespace Cpplet

/-- The type of a declared variable. -/
structure TypeName where
  /-- The word that names the type. -/
  token : Token
  /-- Whether the variable is constant. -/
  isConst : Bool
deriving DecidableEq, Repr

/-- One step of a declaration list. -/
inductive Declaration where
  /-- A variable is declared. -/
  | declare (type : TypeName) (name : Token)
  /-- The variable declared last gets its initial value. -/
  | initial (target op : Token) (value : Expr)
deriving DecidableEq, Repr

/-- Statements without statements inside. -/
inductive Simple where
  /-- The empty statement. -/
  | nothing
  /-- A variable is assigned. -/
  | assign (target op : Token) (value : Expr)
  /-- An expression is evaluated. -/
  | evaluate (expr : Expr)
deriving DecidableEq, Repr

/-- What a `for` statement begins with. -/
inductive ForStart where
  /-- Declarations of loop variables. -/
  | declarations (steps : List Declaration)
  /-- A simple statement. -/
  | simple (statement : Simple)
deriving DecidableEq, Repr

mutual

/-- Statements. -/
inductive Stmt where
  /-- Statements between braces. -/
  | block (brace : Token) (items : List Stmt)
  /-- A variable is declared. -/
  | declare (type : TypeName) (name : Token)
  /-- A statement without statements inside. -/
  | simple (statement : Simple)
  /-- Values are printed. -/
  | print (word : Token) (items : List Expr)
  /-- A choice between two statements, the second of which may be missing. -/
  | branch (word : Token) (condition : Expr) (body : Stmt) (otherwise : Option Stmt)
  /-- A loop with its test first. -/
  | whileLoop (word : Token) (condition : Expr) (body : Stmt)
  /-- A loop with its test last. -/
  | doLoop (word : Token) (body : Stmt) (condition : Expr)
  /-- A loop with a start, a test and an action. -/
  | forLoop (word : Token) (start : ForStart) (condition action : Simple) (body : Stmt)
  /-- The loop or choice of cases is left. -/
  | breakOut (word : Token)
  /-- The loop goes on with its next round. -/
  | continueLoop (word : Token)
  /-- The function is left, with or without a value. -/
  | returnBack (word : Token) (value : Option Expr)
  /-- A choice between cases, with or without a default. -/
  | switch (word : Token) (condition : Expr) (cases : List Case) (fallback : Option (List Stmt))

/-- A case label and the statements behind it. -/
inductive Case where
  /-- The label is a name or a constant. -/
  | mk (label : Expr) (body : List Stmt)

end

namespace Declaration

/-- A declaration step among statements. -/
def toStmt : Declaration → Stmt
  | .declare type name => .declare type name
  | .initial target op value => .simple (.assign target op value)

/-- The place of a declaration step. -/
def location : Declaration → Location
  | .declare type _ => type.token.location
  | .initial target _ _ => target.location

end Declaration

/-- The place of a simple statement. -/
def Simple.location? : Simple → Option Location
  | .nothing => none
  | .assign target _ _ => some target.location
  | .evaluate expr => some expr.location

/-- The place of a statement. -/
def Stmt.location? : Stmt → Option Location
  | .block brace _ => some brace.location
  | .declare type _ => some type.token.location
  | .simple statement => statement.location?
  | .print word _ => some word.location
  | .branch word _ _ _ => some word.location
  | .whileLoop word _ _ => some word.location
  | .doLoop word _ _ => some word.location
  | .forLoop word _ _ _ _ => some word.location
  | .breakOut word => some word.location
  | .continueLoop word => some word.location
  | .returnBack word _ => some word.location
  | .switch word _ _ _ => some word.location

/-- The place of statements without a brace: that of the first that has one. -/
def Stmt.listLocation? (statements : List Stmt) : Option Location :=
  statements.findSome? Stmt.location?

end Cpplet

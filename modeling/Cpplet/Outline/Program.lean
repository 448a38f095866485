import Cpplet.Outline.Basic
import Cpplet.Tree.Program

/-!
# The outline of a program

Every part of a program is a node labelled with what it is and, for operators and leaves, how it
is written. Parts that play different roles in a statement stand below a node that names the
role. Statements without a brace of their own, behind a case label or at the start of a `for`
statement, stand below a node of their own too.
-/

namespace Cpplet

/-- A variable as a leaf. -/
def Token.outline (token : Token) : Outline :=
  .node ("Variable " ++ token.text) (some token.location) []

/-- A type as a leaf. -/
def TypeName.outline (type : TypeName) : Outline :=
  let const := if type.isConst then "const " else ""
  .node ("Type " ++ const ++ type.token.text) (some type.token.location) []

namespace Outline

open Outline (slot)

/-- An expression. -/
def ofExpr : Expr → Outline
  | .name token => token.outline
  | .number token => .node ("Num " ++ token.text) (some token.location) []
  | .string token => .node ("String " ++ token.text) (some token.location) []
  | .truth token => .node ("Bool " ++ token.text) (some token.location) []
  | .unary op operand => .node ("UnaryOp " ++ op.text) (some op.location) [ofExpr operand]
  | .cast type operand => .node ("Cast " ++ type.text) (some type.location) [ofExpr operand]
  | .preStep op operand => .node ("PrefixOp " ++ op.text) (some op.location) [ofExpr operand]
  | .postStep operand op =>
    .node ("PostfixOp " ++ op.text) (some operand.location) [ofExpr operand]
  | .binary left op right =>
    .node ("BinOp " ++ op.text) (some left.location) [ofExpr left, ofExpr right]
  | .conditional condition whenTrue whenFalse =>
    .node "TernaryOp" (some condition.location)
      [slot "Condition" (ofExpr condition), slot "Then" (ofExpr whenTrue),
        slot "Else" (ofExpr whenFalse)]

/-- A declared variable. -/
def ofDeclared (type : TypeName) (name : Token) : Outline :=
  .node "VarDecl" (some type.token.location) [name.outline, type.outline]

/-- An assignment. -/
def ofAssignment (target op : Token) (value : Expr) : Outline :=
  .node ("Assign " ++ op.text) (some target.location) [target.outline, ofExpr value]

/-- A step of a declaration list. -/
def ofDeclaration : Declaration → Outline
  | .declare type name => ofDeclared type name
  | .initial target op value => ofAssignment target op value

/-- A simple statement. -/
def ofSimple : Simple → Outline
  | .nothing => .node "NoOp" none []
  | .assign target op value => ofAssignment target op value
  | .evaluate expr => ofExpr expr

/-- What a `for` statement begins with. -/
def ofForStart : ForStart → Outline
  | .declarations steps =>
    .node "Compound" (steps.head?.map Declaration.location) (steps.map ofDeclaration)
  | .simple statement => ofSimple statement

mutual

/-- A statement. -/
def ofStmt : Stmt → Outline
  | .block brace items => .node "Compound" (some brace.location) (ofStmts items)
  | .declare type name => ofDeclared type name
  | .simple statement => ofSimple statement
  | .print word items => .node "Print" (some word.location) (items.map ofExpr)
  | .branch word condition body otherwise =>
    .node "If" (some word.location)
      (slot "Condition" (ofExpr condition) :: slot "Then" (ofStmt body) :: ofElse otherwise)
  | .whileLoop word condition body =>
    .node "While" (some word.location)
      [slot "Condition" (ofExpr condition), slot "Body" (ofStmt body)]
  | .doLoop word body condition =>
    .node "DoWhile" (some word.location)
      [slot "Body" (ofStmt body), slot "Condition" (ofExpr condition)]
  | .forLoop word start condition action body =>
    .node "For" (some word.location)
      [slot "Init" (ofForStart start), slot "Condition" (ofSimple condition),
        slot "Action" (ofSimple action), slot "Body" (ofStmt body)]
  | .breakOut word => .node "Break" (some word.location) []
  | .continueLoop word => .node "Continue" (some word.location) []
  | .returnBack word value => .node "Return" (some word.location) (value.toList.map ofExpr)
  | .switch word condition cases fallback =>
    .node "Switch" (some word.location)
      (slot "Condition" (ofExpr condition) :: ofCases cases ++ ofFallback fallback)

/-- Statements one after the other. -/
def ofStmts : List Stmt → List Outline
  | [] => []
  | statement :: others => ofStmt statement :: ofStmts others

/-- The second statement of a choice. -/
def ofElse : Option Stmt → List Outline
  | none => []
  | some statement => [slot "Else" (ofStmt statement)]

/-- A case. -/
def ofCase : Case → Outline
  | .mk label body =>
    .node "Case" (some label.location)
      [ofExpr label, .node "Compound" (Stmt.listLocation? body) (ofStmts body)]

/-- Cases one after the other. -/
def ofCases : List Case → List Outline
  | [] => []
  | first :: others => ofCase first :: ofCases others

/-- The default of a choice between cases. -/
def ofFallback : Option (List Stmt) → List Outline
  | none => []
  | some body =>
    [slot "Default" (.node "Compound" (Stmt.listLocation? body) (ofStmts body))]

end

/-- An included header or a used namespace. -/
def ofImport (label : String) (name : Token) : Outline :=
  .node (label ++ " " ++ name.name?.getD "") (some name.location) []

/-- The entry point. -/
def ofEntryPoint (entry : EntryPoint) : Outline :=
  .node ("Main " ++ entry.name.text) (some entry.name.location)
    [.node "Compound" (some entry.brace.location) (ofStmts entry.body)]

end Outline

/-- The outline of a program. -/
def Program.outline (program : Program) : Outline :=
  .node "Program" none
    (program.includes.map (Outline.ofImport "Include") ++
      program.usings.map (Outline.ofImport "Using") ++
      program.before.map Outline.ofDeclaration ++
      program.entry.toList.map Outline.ofEntryPoint ++
      program.after.map Outline.ofDeclaration)

end Cpplet

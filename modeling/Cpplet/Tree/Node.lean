import Cpplet.Tree.Program

/-!
# Nodes

The tree of a source as one kind of nodes. Nothing in it keeps a type from standing where a
statement belongs: which nodes stand where is settled by those who build trees, and the trees that
are built are those of programs (`Program.toTree`). A node has parts, each of which plays a role
in it (`Node.parts`), and a place unless nothing of it was written.
-/

namespace Cpplet

/-- Nodes of a tree. -/
inductive Node where
  /-- Statements one after the other. The bodies of cases and the declarations of a `for`
  statement have no brace. -/
  | compound (brace : Option Token) (children : List Node)
  /-- A variable and its type. -/
  | declare (name type : Node)
  /-- An assignment. -/
  | assign (left : Node) (op : Token) (right : Node)
  /-- Values that are printed. -/
  | print (word : Token) (children : List Node)
  /-- A choice between two statements, the second of which may be missing. -/
  | branch (word : Token) (condition body : Node) (otherwise : Option Node)
  /-- A loop with its test first. -/
  | whileLoop (word : Token) (condition body : Node)
  /-- A loop with its test last. -/
  | doLoop (word : Token) (body condition : Node)
  /-- A loop with a start, a test and an action. -/
  | forLoop (word : Token) (start condition action body : Node)
  /-- The loop or choice of cases is left. -/
  | breakOut (word : Token)
  /-- The loop goes on with its next round. -/
  | continueLoop (word : Token)
  /-- The function is left, with or without a value. -/
  | returnBack (word : Token) (value : Option Node)
  /-- A choice between cases, with or without a default. -/
  | switch (word : Token) (condition : Node) (cases : List Node) (fallback : Option Node)
  /-- A case label and the statements behind it. -/
  | case (label body : Node)
  /-- The empty statement. -/
  | nothing
  /-- An operator between its operands. -/
  | binary (left : Node) (op : Token) (right : Node)
  /-- A sign, a negation, an address, or a conversion to the type that the operator names. -/
  | unary (op : Token) (operand : Node)
  /-- A step before the value is taken. -/
  | preStep (op : Token) (operand : Node)
  /-- A step after the value is taken. -/
  | postStep (op : Token) (operand : Node)
  /-- A choice between two expressions. -/
  | conditional (condition whenTrue whenFalse : Node)
  /-- A variable. -/
  | name (token : Token)
  /-- An integer, floating-point or character constant. -/
  | number (token : Token)
  /-- A string constant. -/
  | string (token : Token)
  /-- A truth value. -/
  | truth (token : Token)
  /-- A type, constant or not. -/
  | type (token : Token) (isConst : Bool)

/-- The roles that nodes play in a node. -/
inductive Role where
  /-- One of several statements or values. -/
  | child
  /-- A declared variable. -/
  | name
  /-- The type of a declared variable. -/
  | type
  /-- What stands before an operator. -/
  | left
  /-- What stands behind an operator. -/
  | right
  /-- The operand of a single operator, or the value that is given back. -/
  | operand
  /-- What is tested, or the label of a case. -/
  | condition
  /-- The statement that is chosen if a test succeeds. -/
  | thenBranch
  /-- The statement that is chosen if a test fails. -/
  | elseBranch
  /-- The expression that is chosen if a test succeeds. -/
  | whenTrue
  /-- The expression that is chosen if a test fails. -/
  | whenFalse
  /-- The body of a loop or case. -/
  | body
  /-- The start of a `for` statement. -/
  | start
  /-- What a `for` statement does after each round. -/
  | action
  /-- One of several cases. -/
  | case
  /-- The default of a choice between cases. -/
  | fallback
deriving DecidableEq, Repr

namespace Node

/-- The parts of a node with their roles, in the order in which they are written. -/
def parts : Node → List (Role × Node)
  | .compound _ children => children.map (.child, ·)
  | .declare declared typed => [(.name, declared), (.type, typed)]
  | .assign left _ right => [(.left, left), (.right, right)]
  | .print _ children => children.map (.child, ·)
  | .branch _ condition body otherwise =>
    (.condition, condition) :: (.thenBranch, body) :: otherwise.toList.map (.elseBranch, ·)
  | .whileLoop _ condition body => [(.condition, condition), (.body, body)]
  | .doLoop _ body condition => [(.body, body), (.condition, condition)]
  | .forLoop _ start condition action body =>
    [(.start, start), (.condition, condition), (.action, action), (.body, body)]
  | .returnBack _ value => value.toList.map (.operand, ·)
  | .switch _ condition cases fallback =>
    (.condition, condition) :: (cases.map (.case, ·) ++ fallback.toList.map (.fallback, ·))
  | .case label body => [(.condition, label), (.body, body)]
  | .binary left _ right => [(.left, left), (.right, right)]
  | .unary _ operand => [(.operand, operand)]
  | .preStep _ operand => [(.operand, operand)]
  | .postStep _ operand => [(.operand, operand)]
  | .conditional condition whenTrue whenFalse =>
    [(.condition, condition), (.whenTrue, whenTrue), (.whenFalse, whenFalse)]
  | .breakOut _ | .continueLoop _ | .nothing => []
  | .name _ | .number _ | .string _ | .truth _ | .type _ _ => []

mutual

/-- The place of a node: that of its keyword or brace, or that of its first part. -/
def location? : Node → Option Location
  | .compound brace children => (brace.map (·.location)).or (firstLocation? children)
  | .declare _ typed => typed.location?
  | .assign left _ _ | .binary left _ _ => left.location?
  | .case label _ => label.location?
  | .conditional condition _ _ => condition.location?
  | .postStep _ operand => operand.location?
  | .print word _ | .branch word _ _ _ | .whileLoop word _ _ | .doLoop word _ _
  | .forLoop word _ _ _ _ | .switch word _ _ _ | .breakOut word | .continueLoop word
  | .returnBack word _ => some word.location
  | .unary op _ | .preStep op _ => some op.location
  | .name token | .number token | .string token | .truth token | .type token _ =>
    some token.location
  | .nothing => none

/-- The place of the first node that has one. -/
def firstLocation? : List Node → Option Location
  | [] => none
  | node :: others => node.location?.or (firstLocation? others)

end

end Node

/-- The function that a source starts with. -/
structure MainFunction where
  /-- The name of the function. -/
  name : Token
  /-- Its body. -/
  body : Node

/-- The tree of a source. -/
structure Tree where
  /-- Names of included headers. -/
  includes : List Node
  /-- Names of used namespaces. -/
  usings : List Node
  /-- Declarations before the main function. -/
  before : List Node
  /-- The main function. -/
  main : Option MainFunction
  /-- Declarations behind the main function. -/
  after : List Node

/-! ## The nodes of a program -/

/-- The node of an expression. -/
def Expr.toNode : Expr → Node
  | .name token => .name token
  | .number token => .number token
  | .string token => .string token
  | .truth token => .truth token
  | .unary op operand => .unary op operand.toNode
  | .cast type operand => .unary type operand.toNode
  | .preStep op operand => .preStep op operand.toNode
  | .postStep operand op => .postStep op operand.toNode
  | .binary left op right => .binary left.toNode op right.toNode
  | .conditional condition whenTrue whenFalse =>
    .conditional condition.toNode whenTrue.toNode whenFalse.toNode

/-- The node of a type. -/
def TypeName.toNode (type : TypeName) : Node := .type type.token type.isConst

/-- The node of a step of a declaration list. -/
def Declaration.toNode : Declaration → Node
  | .declare type name => .declare (.name name) type.toNode
  | .initial target op value => .assign (.name target) op value.toNode

/-- The node of a simple statement. -/
def Simple.toNode : Simple → Node
  | .nothing => .nothing
  | .assign target op value => .assign (.name target) op value.toNode
  | .evaluate expr => expr.toNode

/-- The node of what a `for` statement begins with. -/
def ForStart.toNode : ForStart → Node
  | .declarations steps => .compound none (steps.map Declaration.toNode)
  | .simple statement => statement.toNode

mutual

/-- The node of a statement. -/
def Stmt.toNode : Stmt → Node
  | .block brace items => .compound (some brace) (Stmt.toNodes items)
  | .declare type name => .declare (.name name) type.toNode
  | .simple statement => statement.toNode
  | .print word items => .print word (items.map Expr.toNode)
  | .branch word condition body otherwise =>
    .branch word condition.toNode body.toNode (Stmt.elseNode otherwise)
  | .whileLoop word condition body => .whileLoop word condition.toNode body.toNode
  | .doLoop word body condition => .doLoop word body.toNode condition.toNode
  | .forLoop word start condition action body =>
    .forLoop word start.toNode condition.toNode action.toNode body.toNode
  | .breakOut word => .breakOut word
  | .continueLoop word => .continueLoop word
  | .returnBack word value => .returnBack word (value.map Expr.toNode)
  | .switch word condition cases fallback =>
    .switch word condition.toNode (Case.toNodes cases) (Stmt.fallbackNode fallback)

/-- The nodes of statements. -/
def Stmt.toNodes : List Stmt → List Node
  | [] => []
  | statement :: others => statement.toNode :: Stmt.toNodes others

/-- The node of the second statement of a choice. -/
def Stmt.elseNode : Option Stmt → Option Node
  | none => none
  | some statement => some statement.toNode

/-- The node of a case. -/
def Case.toNode : Case → Node
  | .mk label body => .case label.toNode (.compound none (Stmt.toNodes body))

/-- The nodes of cases. -/
def Case.toNodes : List Case → List Node
  | [] => []
  | first :: others => first.toNode :: Case.toNodes others

/-- The node of the default of a choice between cases. -/
def Stmt.fallbackNode : Option (List Stmt) → Option Node
  | none => none
  | some body => some (.compound none (Stmt.toNodes body))

end

/-- The entry point as the main function. -/
def EntryPoint.toMain (entry : EntryPoint) : MainFunction :=
  ⟨entry.name, .compound (some entry.brace) (Stmt.toNodes entry.body)⟩

/-- The tree of a program. -/
def Program.toTree (program : Program) : Tree :=
  { includes := program.includes.map Node.name
    usings := program.usings.map Node.name
    before := program.before.map Declaration.toNode
    main := program.entry.map EntryPoint.toMain
    after := program.after.map Declaration.toNode }

/-! ## Places of nodes -/

/-- The nodes of statements are those of one statement after the other. -/
theorem Stmt.toNodes_eq (statements : List Stmt) :
    Stmt.toNodes statements = statements.map Stmt.toNode := by
  induction statements with
  | nil => rfl
  | cons first others ih => rw [toNodes, ih, List.map_cons]

/-- The nodes of cases are those of one case after the other. -/
theorem Case.toNodes_eq (cases : List Case) : Case.toNodes cases = cases.map Case.toNode := by
  induction cases with
  | nil => rfl
  | cons first others ih => rw [toNodes, ih, List.map_cons]

/-- The place of an expression is that of its node. -/
theorem Expr.location?_toNode (expr : Expr) : expr.toNode.location? = some expr.location := by
  induction expr with
  | postStep operand op ih => exact ih
  | binary left op right ih => exact ih
  | conditional condition whenTrue whenFalse ih => exact ih
  | _ => rfl

/-- The place of a simple statement is that of its node. -/
theorem Simple.location?_toNode (statement : Simple) :
    statement.toNode.location? = statement.location? := by
  cases statement with
  | evaluate expr => exact expr.location?_toNode
  | _ => rfl

/-- The place of a statement is that of its node. -/
theorem Stmt.location?_toNode (statement : Stmt) :
    statement.toNode.location? = statement.location? := by
  cases statement with
  | simple statement => exact statement.location?_toNode
  | _ => rfl

/-- Statements without a brace have the place of the node that holds them. -/
theorem Stmt.location?_compound (statements : List Stmt) :
    (Node.compound none (Stmt.toNodes statements)).location? =
      Stmt.listLocation? statements := by
  show Node.firstLocation? _ = _
  induction statements with
  | nil => rfl
  | cons first others ih =>
    rw [toNodes, Node.firstLocation?, ih, first.location?_toNode, listLocation?, listLocation?,
      List.findSome?_cons]
    cases first.location? <;> rfl

end Cpplet

import Cpplet.Proofs.Shapes
import Cpplet.Tree.Node

/-!
# The nodes of parsed programs

Nodes are of one kind, so nothing keeps a type from standing where a statement belongs. In the
tree of a program that was parsed every node is as its form asks for (`Node.Formed`): it keeps the
token of its own word, brace or operator, and its parts are of the forms that belong there. Types
and cases stand nowhere else, and statements without a brace only behind a case label or a default
and at the start of a `for` statement (`Node.Placed`). Declarations are lists of variables, each
of which may be followed by the assignment of its initial value (`Node.Declarations`).
-/

namespace Cpplet

namespace Node

/-! ## Nodes inside a node -/

/-- A node is inside a root, at any depth. -/
inductive Inside : Node → Node → Prop where
  /-- The root is. -/
  | here (root : Node) : Inside root root
  /-- What is inside a part of the root is. -/
  | deeper {root part node : Node} {role : Role} (member : (role, part) ∈ root.parts)
      (inside : Inside part node) : Inside root node

/-! ## Forms -/

/-- Whether a node is an expression. -/
def isExpr : Node → Bool
  | .binary _ _ _ | .unary _ _ | .preStep _ _ | .postStep _ _ | .conditional _ _ _ => true
  | .name _ | .number _ | .string _ | .truth _ => true
  | _ => false

/-- Whether a node is a variable or a constant. -/
def isLeaf : Node → Bool
  | .name _ | .number _ | .string _ | .truth _ => true
  | _ => false

/-- Whether a node is a type. -/
def isType : Node → Bool
  | .type _ _ => true
  | _ => false

/-- Whether a node is a case. -/
def isCase : Node → Bool
  | .case _ _ => true
  | _ => false

/-- Whether a node holds statements without a brace. -/
def isBare : Node → Bool
  | .compound none _ => true
  | _ => false

/-- Whether a node is a statement or an expression. -/
def isStatement (node : Node) : Bool := !node.isType && !node.isCase && !node.isBare

/-- Whether a node is a statement without statements inside. -/
def isSimple : Node → Bool
  | .nothing | .assign _ _ _ => true
  | node => node.isExpr

/-- An expression is a simple statement. -/
theorem isSimple_of_isExpr {node : Node} (expr : node.isExpr = true) : node.isSimple = true := by
  cases node <;> first | rfl | cases expr

/-- A simple statement is a statement. -/
theorem isStatement_of_isSimple {node : Node} (simple : node.isSimple = true) :
    node.isStatement = true := by
  cases node <;> first | rfl | cases simple

/-- An expression is a statement. -/
theorem isStatement_of_isExpr {node : Node} (expr : node.isExpr = true) :
    node.isStatement = true :=
  isStatement_of_isSimple (isSimple_of_isExpr expr)

/-- A variable or constant is a statement. -/
theorem isStatement_of_isLeaf {node : Node} (leaf : node.isLeaf = true) :
    node.isStatement = true := by
  cases node <;> first | rfl | cases leaf

/-- Nodes that are declared variables, and assignments of initial values. An assignment is a plain
one and stands directly behind the declaration of the very variable that it assigns. -/
def Declarations (nodes : List Node) : Prop :=
  ∀ index node, nodes[index]? = some node →
    (∃ name type, node = .declare name type) ∨
      ∃ target op value type, node = .assign (.name target) op value ∧
        op.kind = .mark .assign ∧ 0 < index ∧
        nodes[index - 1]? = some (.declare (.name target) type)

/-- No declarations are declarations. -/
theorem Declarations.nil : Declarations [] := by
  intro index node found
  cases found

/-- Declarations behind a declared variable. -/
theorem Declarations.declare {nodes : List Node} (tail : Declarations nodes) (name type : Node) :
    Declarations (.declare name type :: nodes) := by
  intro index node found
  cases index with
  | zero =>
    cases found
    exact .inl ⟨name, type, rfl⟩
  | succ index =>
    rcases tail index node found with declared | ⟨target, op, value, type, rfl, plain, inner, last⟩
    · exact .inl declared
    · refine .inr ⟨target, op, value, type, rfl, plain, Nat.succ_pos _, ?_⟩
      obtain ⟨index, rfl⟩ := Nat.exists_eq_succ_of_ne_zero inner.ne'
      exact last

/-- Declarations behind a declared variable and the assignment of its initial value. -/
theorem Declarations.initial {nodes : List Node} (tail : Declarations nodes) {op : Token}
    (plain : op.kind = .mark .assign) (target : Token) (type value : Node) :
    Declarations (.declare (.name target) type :: .assign (.name target) op value :: nodes) := by
  intro index node found
  rcases index with _ | _ | index
  · cases found
    exact .inl ⟨_, type, rfl⟩
  · cases found
    exact .inr ⟨target, op, value, type, rfl, plain, Nat.succ_pos _, rfl⟩
  · rcases tail index node found with declared | ⟨target, op, value, type, rfl, plain, inner, last⟩
    · exact .inl declared
    · refine .inr ⟨target, op, value, type, rfl, plain, Nat.succ_pos _, ?_⟩
      obtain ⟨index, rfl⟩ := Nat.exists_eq_succ_of_ne_zero inner.ne'
      exact last

/-- A node is as its form asks for: its tokens are sound and of kinds that belong there, and its
parts are of forms that belong there. -/
inductive Formed : Node → Prop where
  /-- Statements behind the brace that opens them. -/
  | block {brace : Token} {children : List Node}
      (opens : brace.Suits Token.Sound (· = .mark .leftBrace))
      (inner : ∀ child ∈ children, child.isStatement = true) :
      Formed (.compound (some brace) children)
  /-- Statements without a brace. -/
  | bare {children : List Node} (inner : ∀ child ∈ children, child.isStatement = true) :
      Formed (.compound none children)
  /-- A variable and a type. -/
  | declare {name type : Token} {isConst : Bool}
      (named : name.Suits Token.Sound (· = .name))
      (typed : type.Suits Token.Sound (·.isType = true)) :
      Formed (.declare (.name name) (.type type isConst))
  /-- A variable, an assignment operator and an expression. -/
  | assign {target op : Token} {value : Node} (named : target.Suits Token.Sound (· = .name))
      (assigns : op.Suits Token.Sound (·.isAssignment = true)) (inner : value.isExpr = true) :
      Formed (.assign (.name target) op value)
  /-- One expression is printed at least. -/
  | print {word : Token} {children : List Node}
      (first : word.Suits Token.Sound (· = .keyword .coutWord)) (some : children ≠ [])
      (inner : ∀ child ∈ children, child.isExpr = true) : Formed (.print word children)
  /-- A choice between two statements. -/
  | branch {word : Token} {condition body : Node} {otherwise : Option Node}
      (first : word.Suits Token.Sound (· = .keyword .ifWord)) (test : condition.isExpr = true)
      (inner : body.isStatement = true) (last : ∀ other ∈ otherwise, other.isStatement = true) :
      Formed (.branch word condition body otherwise)
  /-- A loop with its test first. -/
  | whileLoop {word : Token} {condition body : Node}
      (first : word.Suits Token.Sound (· = .keyword .whileWord)) (test : condition.isExpr = true)
      (inner : body.isStatement = true) : Formed (.whileLoop word condition body)
  /-- A loop with its test last. -/
  | doLoop {word : Token} {body condition : Node}
      (first : word.Suits Token.Sound (· = .keyword .doWord)) (inner : body.isStatement = true)
      (test : condition.isExpr = true) : Formed (.doLoop word body condition)
  /-- A loop that starts with declarations without a brace, or with a simple statement. -/
  | forLoop {word : Token} {start condition action body : Node}
      (first : word.Suits Token.Sound (· = .keyword .forWord))
      (begins : start.isSimple = true ∨
        ∃ steps, start = .compound none steps ∧ Declarations steps)
      (test : condition.isSimple = true) (step : action.isSimple = true)
      (inner : body.isStatement = true) : Formed (.forLoop word start condition action body)
  /-- A `break`. -/
  | breakOut {word : Token} (first : word.Suits Token.Sound (· = .keyword .breakWord)) :
      Formed (.breakOut word)
  /-- A `continue`. -/
  | continueLoop {word : Token} (first : word.Suits Token.Sound (· = .keyword .continueWord)) :
      Formed (.continueLoop word)
  /-- A `return`, possibly with an expression. -/
  | returnBack {word : Token} {value : Option Node}
      (first : word.Suits Token.Sound (· = .keyword .returnWord))
      (inner : ∀ expr ∈ value, expr.isExpr = true) : Formed (.returnBack word value)
  /-- A choice between cases; the default is statements without a brace. -/
  | switch {word : Token} {condition : Node} {cases : List Node} {fallback : Option Node}
      (first : word.Suits Token.Sound (· = .keyword .switchWord))
      (test : condition.isExpr = true) (choices : ∀ choice ∈ cases, choice.isCase = true)
      (last : ∀ body ∈ fallback, body.isBare = true) :
      Formed (.switch word condition cases fallback)
  /-- A variable or constant, and statements without a brace. -/
  | case {label body : Node} (labelled : label.isLeaf = true) (inner : body.isBare = true) :
      Formed (.case label body)
  /-- Nothing. -/
  | nothing : Formed .nothing
  /-- A binary operator between expressions. -/
  | binary {left right : Node} {op : Token} (first : left.isExpr = true)
      (between : op.Suits Token.Sound fun kind =>
        ∃ symbol : Mark, kind = .mark symbol ∧ symbol.tightness.isSome = true)
      (second : right.isExpr = true) : Formed (.binary left op right)
  /-- A sign or a type before an expression. -/
  | unary {op : Token} {operand : Node}
      (before : op.Suits Token.Sound fun kind =>
        (∃ symbol : Mark, kind = .mark symbol ∧ symbol.isSign = true) ∨ kind.isType = true)
      (inner : operand.isExpr = true) : Formed (.unary op operand)
  /-- A step before an expression. -/
  | preStep {op : Token} {operand : Node}
      (before : op.Suits Token.Sound fun kind =>
        ∃ symbol : Mark, kind = .mark symbol ∧ symbol.isStep = true)
      (inner : operand.isExpr = true) : Formed (.preStep op operand)
  /-- A step behind an expression. -/
  | postStep {op : Token} {operand : Node}
      (behind : op.Suits Token.Sound fun kind =>
        ∃ symbol : Mark, kind = .mark symbol ∧ symbol.isStep = true)
      (inner : operand.isExpr = true) : Formed (.postStep op operand)
  /-- Three expressions. -/
  | conditional {condition whenTrue whenFalse : Node} (test : condition.isExpr = true)
      (first : whenTrue.isExpr = true) (second : whenFalse.isExpr = true) :
      Formed (.conditional condition whenTrue whenFalse)
  /-- A variable is a name. -/
  | name {token : Token} (suits : token.Suits Token.Sound (· = .name)) : Formed (.name token)
  /-- A number is an integer, floating-point or character constant. -/
  | number {token : Token} (suits : token.Suits Token.Sound fun kind =>
      kind = .integer ∨ kind = .float ∨ kind = .char) : Formed (.number token)
  /-- A text is a string constant. -/
  | string {token : Token} (suits : token.Suits Token.Sound (· = .string)) :
      Formed (.string token)
  /-- A truth value is one of two reserved words. -/
  | truth {token : Token} (suits : token.Suits Token.Sound fun kind =>
      kind = .keyword .trueWord ∨ kind = .keyword .falseWord) : Formed (.truth token)
  /-- A type is named by a word for one. -/
  | type {token : Token} {isConst : Bool} (suits : token.Suits Token.Sound (·.isType = true)) :
      Formed (.type token isConst)

/-- Types, cases and statements without a brace stand in no other roles than theirs. -/
structure Placed (parent : Node) (role : Role) (part : Node) : Prop where
  /-- A type is that of a declared variable. -/
  type : part.isType = true → role = .type
  /-- A case is one of those that are chosen from. -/
  case : part.isCase = true → role = .case
  /-- Statements without a brace stand behind a default, at the start of a `for` statement or in a
  case. -/
  bare : part.isBare = true →
    role = .fallback ∨ role = .start ∨ role = .body ∧ parent.isCase = true

/-- Statements and expressions may stand anywhere. -/
theorem Placed.of_isStatement {parent part : Node} {role : Role}
    (statement : part.isStatement = true) : Placed parent role part := by
  simp only [isStatement, Bool.and_eq_true, Bool.not_eq_true'] at statement
  obtain ⟨⟨noType, noCase⟩, noBare⟩ := statement
  constructor
  · simp [noType]
  · simp [noCase]
  · simp [noBare]

/-- Simple statements may stand anywhere. -/
theorem Placed.of_isSimple {parent part : Node} {role : Role} (simple : part.isSimple = true) :
    Placed parent role part := .of_isStatement (isStatement_of_isSimple simple)

/-- Expressions may stand anywhere. -/
theorem Placed.of_isExpr {parent part : Node} {role : Role} (expr : part.isExpr = true) :
    Placed parent role part := .of_isStatement (isStatement_of_isExpr expr)

/-- A case may be chosen from. -/
theorem Placed.of_isCase {parent part : Node} (case : part.isCase = true) :
    Placed parent .case part := by
  cases part with
  | case label body => exact ⟨nofun, fun _ => rfl, nofun⟩
  | _ => cases case

/-- Statements without a brace stand where they may. -/
theorem Placed.of_isBare {parent part : Node} {role : Role} (bare : part.isBare = true)
    (allowed : role = .fallback ∨ role = .start ∨ role = .body ∧ parent.isCase = true) :
    Placed parent role part := by
  cases part with
  | compound brace children =>
    cases brace with
    | none => exact ⟨nofun, nofun, fun _ => allowed⟩
    | some brace => cases bare
  | _ => cases bare

/-- The parts of a node that is as its form asks for stand in their roles. -/
theorem Formed.placed {parent : Node} (formed : parent.Formed) :
    ∀ entry ∈ parent.parts, Placed parent entry.1 entry.2 := by
  cases formed with
  | block opens inner =>
    exact List.forall_mem_map.mpr fun child member => .of_isStatement (inner child member)
  | bare inner =>
    exact List.forall_mem_map.mpr fun child member => .of_isStatement (inner child member)
  | declare named typed =>
    exact List.forall_mem_cons.mpr ⟨.of_isExpr rfl,
      List.forall_mem_singleton.mpr ⟨fun _ => rfl, nofun, nofun⟩⟩
  | assign named assigns inner =>
    exact List.forall_mem_cons.mpr ⟨.of_isExpr rfl,
      List.forall_mem_singleton.mpr (.of_isExpr inner)⟩
  | print first some inner =>
    exact List.forall_mem_map.mpr fun child member => .of_isExpr (inner child member)
  | branch first test inner last =>
    refine List.forall_mem_cons.mpr ⟨.of_isExpr test,
      List.forall_mem_cons.mpr ⟨.of_isStatement inner, List.forall_mem_map.mpr ?_⟩⟩
    exact fun other member => .of_isStatement (last other (Option.mem_toList.mp member))
  | whileLoop first test inner =>
    exact List.forall_mem_cons.mpr ⟨.of_isExpr test,
      List.forall_mem_singleton.mpr (.of_isStatement inner)⟩
  | doLoop first inner test =>
    exact List.forall_mem_cons.mpr ⟨.of_isStatement inner,
      List.forall_mem_singleton.mpr (.of_isExpr test)⟩
  | @forLoop word start condition action body first begins test step inner =>
    have begins : Placed (.forLoop word start condition action body) .start start := by
      rcases begins with simple | ⟨steps, rfl, -⟩
      · exact .of_isSimple simple
      · exact .of_isBare rfl (.inr (.inl rfl))
    exact List.forall_mem_cons.mpr ⟨begins, List.forall_mem_cons.mpr ⟨.of_isSimple test,
      List.forall_mem_cons.mpr ⟨.of_isSimple step,
        List.forall_mem_singleton.mpr (.of_isStatement inner)⟩⟩⟩
  | returnBack first inner =>
    refine List.forall_mem_map.mpr fun value member => ?_
    exact .of_isExpr (inner value (Option.mem_toList.mp member))
  | switch first test choices last =>
    refine List.forall_mem_cons.mpr ⟨.of_isExpr test, List.forall_mem_append.mpr ⟨?_, ?_⟩⟩
    · exact List.forall_mem_map.mpr fun choice member => .of_isCase (choices choice member)
    · refine List.forall_mem_map.mpr fun body member => ?_
      exact .of_isBare (last body (Option.mem_toList.mp member)) (.inl rfl)
  | case labelled inner =>
    exact List.forall_mem_cons.mpr ⟨.of_isStatement (isStatement_of_isLeaf labelled),
      List.forall_mem_singleton.mpr (.of_isBare inner (.inr (.inr ⟨rfl, rfl⟩)))⟩
  | binary first between second =>
    exact List.forall_mem_cons.mpr ⟨.of_isExpr first,
      List.forall_mem_singleton.mpr (.of_isExpr second)⟩
  | unary before inner => exact List.forall_mem_singleton.mpr (.of_isExpr inner)
  | preStep before inner => exact List.forall_mem_singleton.mpr (.of_isExpr inner)
  | postStep behind inner => exact List.forall_mem_singleton.mpr (.of_isExpr inner)
  | conditional test first second =>
    exact List.forall_mem_cons.mpr ⟨.of_isExpr test, List.forall_mem_cons.mpr
      ⟨.of_isExpr first, List.forall_mem_singleton.mpr (.of_isExpr second)⟩⟩
  | breakOut _ | continueLoop _ | nothing | name _ | number _ | string _ | truth _ | type _ =>
    exact List.forall_mem_nil _

/-- Whether all nodes inside a root are as their forms ask for. -/
def Whole (root : Node) : Prop := ∀ node, Inside root node → node.Formed

/-- A root is whole if it is as its form asks for and its parts are whole. -/
theorem Formed.whole {root : Node} (formed : root.Formed)
    (parts : ∀ entry ∈ root.parts, entry.2.Whole) : root.Whole := by
  intro node inside
  cases inside with
  | here => exact formed
  | deeper member inside => exact parts _ member node inside

end Node

/-! ## Nodes of shaped trees -/

/-- The node of an expression is one. -/
theorem Expr.isExpr_toNode (expr : Expr) : expr.toNode.isExpr = true := by
  cases expr <;> rfl

/-- The node of a name or a constant is one. -/
theorem Expr.isLeaf_toNode {expr : Expr} (leaf : expr.isLeaf = true) :
    expr.toNode.isLeaf = true := by
  cases expr <;> first | rfl | cases leaf

/-- The node of a simple statement is one. -/
theorem Simple.isSimple_toNode (statement : Simple) : statement.toNode.isSimple = true := by
  cases statement with
  | evaluate expr => exact Node.isSimple_of_isExpr expr.isExpr_toNode
  | _ => rfl

/-- The node of a statement is one. -/
theorem Stmt.isStatement_toNode (statement : Stmt) : statement.toNode.isStatement = true := by
  cases statement with
  | simple statement => exact Node.isStatement_of_isSimple statement.isSimple_toNode
  | _ => rfl

/-- The node of a step of a declaration list is a statement. -/
theorem Declaration.isStatement_toNode (step : Declaration) :
    step.toNode.isStatement = true := by
  cases step <;> rfl

open Node in
/-- The node of a shaped expression is whole. -/
theorem Expr.Shaped.whole {expr : Expr} (shaped : expr.Shaped Token.Sound) :
    expr.toNode.Whole := by
  induction shaped with
  | name suits => exact (Formed.name suits).whole (List.forall_mem_nil _)
  | number suits => exact (Formed.number suits).whole (List.forall_mem_nil _)
  | string suits => exact (Formed.string suits).whole (List.forall_mem_nil _)
  | truth suits => exact (Formed.truth suits).whole (List.forall_mem_nil _)
  | unary suits inner ih =>
    exact (Formed.unary ⟨suits.1, .inl suits.2⟩ (isExpr_toNode _)).whole
      (List.forall_mem_singleton.mpr ih)
  | cast suits inner ih =>
    exact (Formed.unary ⟨suits.1, .inr suits.2⟩ (isExpr_toNode _)).whole
      (List.forall_mem_singleton.mpr ih)
  | preStep suits inner ih =>
    exact (Formed.preStep suits (isExpr_toNode _)).whole (List.forall_mem_singleton.mpr ih)
  | postStep inner suits ih =>
    exact (Formed.postStep suits (isExpr_toNode _)).whole (List.forall_mem_singleton.mpr ih)
  | binary first suits second ihFirst ihSecond =>
    exact (Formed.binary (isExpr_toNode _) suits (isExpr_toNode _)).whole
      (List.forall_mem_cons.mpr ⟨ihFirst, List.forall_mem_singleton.mpr ihSecond⟩)
  | conditional test first second ihTest ihFirst ihSecond =>
    exact (Formed.conditional (isExpr_toNode _) (isExpr_toNode _) (isExpr_toNode _)).whole
      (List.forall_mem_cons.mpr ⟨ihTest, List.forall_mem_cons.mpr
        ⟨ihFirst, List.forall_mem_singleton.mpr ihSecond⟩⟩)

open Node in
/-- The node of a declared variable is whole. -/
theorem whole_declare {name : Token} {type : TypeName} (typed : type.Shaped Token.Sound)
    (named : name.Suits Token.Sound (· = .name)) :
    (Node.declare (.name name) type.toNode).Whole := by
  have leaf : (Node.name name).Whole := (Formed.name named).whole (List.forall_mem_nil _)
  have last : type.toNode.Whole := (Formed.type typed).whole (List.forall_mem_nil _)
  exact (Formed.declare named typed).whole
    (List.forall_mem_cons.mpr ⟨leaf, List.forall_mem_singleton.mpr last⟩)

open Node in
/-- The node of an assignment is whole. -/
theorem whole_assign {target op : Token} {value : Expr}
    (named : target.Suits Token.Sound (· = .name))
    (assigns : op.Suits Token.Sound (·.isAssignment = true)) (inner : value.Shaped Token.Sound) :
    (Node.assign (.name target) op value.toNode).Whole := by
  have leaf : (Node.name target).Whole := (Formed.name named).whole (List.forall_mem_nil _)
  exact (Formed.assign named assigns value.isExpr_toNode).whole
    (List.forall_mem_cons.mpr ⟨leaf, List.forall_mem_singleton.mpr inner.whole⟩)

/-- The nodes of a declaration list are whole. -/
theorem Declared.whole {steps : List Declaration} (declared : Declared Token.Sound steps) :
    ∀ step ∈ steps, step.toNode.Whole := by
  induction declared with
  | nil => exact List.forall_mem_nil _
  | plain typed named tail ih => exact List.forall_mem_cons.mpr ⟨whole_declare typed named, ih⟩
  | initial typed named assigns inner tail ih =>
    have plain : _ := And.intro assigns.1 (congrArg Kind.isAssignment assigns.2)
    exact List.forall_mem_cons.mpr ⟨whole_declare typed named,
      List.forall_mem_cons.mpr ⟨whole_assign named plain inner, ih⟩⟩

/-- The nodes of a declaration list are declared variables and assignments of initial values. -/
theorem Declared.declarations {steps : List Declaration} (declared : Declared Token.Sound steps) :
    Node.Declarations (steps.map Declaration.toNode) := by
  induction declared with
  | nil => exact .nil
  | plain typed named tail ih => exact ih.declare _ _
  | initial typed named assigns inner tail ih => exact ih.initial assigns.2 _ _ _

open Node in
/-- The node of a simple statement is whole. -/
theorem Simple.Shaped.whole {statement : Simple} (shaped : statement.Shaped Token.Sound) :
    statement.toNode.Whole := by
  cases shaped with
  | nothing => exact Formed.nothing.whole (List.forall_mem_nil _)
  | assign named assigns inner => exact whole_assign named assigns inner
  | evaluate inner => exact inner.whole

open Node in
/-- The node of the beginning of a `for` statement is whole, and of a form that belongs there. -/
theorem ForStart.Shaped.whole {start : ForStart} (shaped : start.Shaped Token.Sound) :
    start.toNode.Whole ∧ (start.toNode.isSimple = true ∨
      ∃ steps, start.toNode = .compound none steps ∧ Declarations steps) := by
  cases shaped with
  | @declarations steps inner =>
    have bare : Formed (.compound none (steps.map Declaration.toNode)) :=
      .bare (List.forall_mem_map.mpr fun step _ => step.isStatement_toNode)
    refine ⟨bare.whole ?_, .inr ⟨_, rfl, inner.declarations⟩⟩
    exact List.forall_mem_map.mpr (List.forall_mem_map.mpr inner.whole)
  | simple inner => exact ⟨inner.whole, .inl (Simple.isSimple_toNode _)⟩

open Node in
/-- Whole nodes of statements make up whole statements without a brace. -/
theorem whole_bare {items : List Stmt} (inner : ∀ item ∈ items, item.toNode.Whole) :
    (Node.compound none (Stmt.toNodes items)).Whole := by
  rw [Stmt.toNodes_eq]
  have bare : Formed (.compound none (items.map Stmt.toNode)) :=
    .bare (List.forall_mem_map.mpr fun item _ => item.isStatement_toNode)
  exact bare.whole (List.forall_mem_map.mpr (List.forall_mem_map.mpr inner))

open Node in
/-- Whole nodes of statements behind a brace make up a whole block. -/
theorem whole_block {brace : Token} {items : List Stmt}
    (opens : brace.Suits Token.Sound (· = .mark .leftBrace))
    (inner : ∀ item ∈ items, item.toNode.Whole) :
    (Node.compound (some brace) (Stmt.toNodes items)).Whole := by
  rw [Stmt.toNodes_eq]
  have block : Formed (.compound (some brace) (items.map Stmt.toNode)) :=
    .block opens (List.forall_mem_map.mpr fun item _ => item.isStatement_toNode)
  exact block.whole (List.forall_mem_map.mpr (List.forall_mem_map.mpr inner))

open Node in
/-- The node of a shaped statement is whole. -/
theorem Stmt.Shaped.whole {statement : Stmt} (shaped : statement.Shaped Token.Sound) :
    statement.toNode.Whole := by
  induction shaped with
  | block opens inner ih => exact whole_block opens ih
  | declare typed named => exact whole_declare typed named
  | simple inner => exact inner.whole
  | @print word items first some inner =>
    have print : Formed (.print word (items.map Expr.toNode)) :=
      .print first (List.map_eq_nil_iff.not.mpr some)
        (List.forall_mem_map.mpr fun item _ => item.isExpr_toNode)
    exact print.whole (List.forall_mem_map.mpr (List.forall_mem_map.mpr fun item member =>
      (inner item member).whole))
  | @branch word condition body otherwise first test inner last ihInner ihLast =>
    have other : ∀ node ∈ elseNode otherwise, node.isStatement = true ∧ node.Whole := by
      cases otherwise with
      | none => nofun
      | some other =>
        rintro _ ⟨⟩
        exact ⟨other.isStatement_toNode, ihLast other rfl⟩
    have branch : Formed (.branch word condition.toNode body.toNode (elseNode otherwise)) :=
      .branch first condition.isExpr_toNode body.isStatement_toNode fun node member =>
        (other node member).1
    refine branch.whole (List.forall_mem_cons.mpr ⟨test.whole,
      List.forall_mem_cons.mpr ⟨ihInner, List.forall_mem_map.mpr ?_⟩⟩)
    exact fun node member => (other node (Option.mem_toList.mp member)).2
  | whileLoop first test inner ih =>
    exact (Formed.whileLoop first (Expr.isExpr_toNode _) (isStatement_toNode _)).whole
      (List.forall_mem_cons.mpr ⟨test.whole, List.forall_mem_singleton.mpr ih⟩)
  | doLoop first inner test ih =>
    exact (Formed.doLoop first (isStatement_toNode _) (Expr.isExpr_toNode _)).whole
      (List.forall_mem_cons.mpr ⟨ih, List.forall_mem_singleton.mpr test.whole⟩)
  | forLoop first begins test step inner ih =>
    obtain ⟨start, form⟩ := begins.whole
    exact (Formed.forLoop first form (Simple.isSimple_toNode _) (Simple.isSimple_toNode _)
      (isStatement_toNode _)).whole (List.forall_mem_cons.mpr ⟨start,
        List.forall_mem_cons.mpr ⟨test.whole, List.forall_mem_cons.mpr ⟨step.whole,
          List.forall_mem_singleton.mpr ih⟩⟩⟩)
  | breakOut first => exact (Formed.breakOut first).whole (List.forall_mem_nil _)
  | continueLoop first => exact (Formed.continueLoop first).whole (List.forall_mem_nil _)
  | @returnBack word value first inner =>
    have returns : Formed (.returnBack word (value.map Expr.toNode)) := by
      refine .returnBack first fun node member => ?_
      obtain ⟨expr, -, rfl⟩ := Option.map_eq_some_iff.mp member
      exact expr.isExpr_toNode
    refine returns.whole (List.forall_mem_map.mpr fun node member => ?_)
    obtain ⟨expr, found, rfl⟩ := Option.map_eq_some_iff.mp (Option.mem_toList.mp member)
    exact (inner expr found).whole
  | @switch word condition cases fallback first test labels choices last ihChoices ihLast =>
    have each : ∀ choice ∈ cases, choice.toNode.isCase = true ∧ choice.toNode.Whole := by
      rintro ⟨label, body⟩ member
      obtain ⟨leaf, shaped⟩ := labels label body member
      refine ⟨rfl, (Formed.case (Expr.isLeaf_toNode leaf) rfl).whole ?_⟩
      exact List.forall_mem_cons.mpr ⟨shaped.whole,
        List.forall_mem_singleton.mpr (whole_bare (ihChoices label body member))⟩
    have other : ∀ node ∈ fallbackNode fallback, node.isBare = true ∧ node.Whole := by
      cases fallback with
      | none => nofun
      | some body =>
        rintro _ ⟨⟩
        exact ⟨rfl, whole_bare (ihLast body rfl)⟩
    have switches : Formed (.switch word condition.toNode (cases.map Case.toNode)
        (fallbackNode fallback)) :=
      .switch first condition.isExpr_toNode (List.forall_mem_map.mpr fun choice member =>
        (each choice member).1) fun node member => (other node member).1
    rw [toNode, Case.toNodes_eq]
    refine switches.whole (List.forall_mem_cons.mpr ⟨test.whole,
      List.forall_mem_append.mpr ⟨?_, ?_⟩⟩)
    · exact List.forall_mem_map.mpr (List.forall_mem_map.mpr fun choice member =>
        (each choice member).2)
    · exact List.forall_mem_map.mpr fun node member =>
        (other node (Option.mem_toList.mp member)).2

/-! ## Trees of parsed programs -/

namespace Tree

/-- The nodes that a tree begins with. -/
def roots (tree : Tree) : List Node :=
  tree.includes ++ tree.usings ++ tree.before ++ tree.main.toList.map (·.body) ++ tree.after

/-- Whether a node is somewhere in a tree. -/
def Holds (tree : Tree) (node : Node) : Prop := ∃ root ∈ tree.roots, Node.Inside root node

/-- A tree whose nodes are as their forms ask for and stand where they belong. -/
structure Shaped (tree : Tree) : Prop where
  /-- Included headers are variables that carry names. -/
  includes : ∀ node ∈ tree.includes,
    ∃ token text, node = .name token ∧ token.name? = some text
  /-- Used namespaces are variables that carry names. -/
  usings : ∀ node ∈ tree.usings, ∃ token text, node = .name token ∧ token.name? = some text
  /-- Variables are declared before the main function. -/
  before : Node.Declarations tree.before
  /-- Variables are declared behind the main function. -/
  after : Node.Declarations tree.after
  /-- Without a main function there is nothing behind it. -/
  settled : tree.main = none → tree.after = []
  /-- The main function is named `main`, and its body has a brace. -/
  main : ∀ main ∈ tree.main, main.name.kind = .name ∧ main.name.name? = some "main" ∧
    ∃ brace children, main.body = .compound (some brace) children
  /-- The tree begins with statements and expressions. -/
  roots : ∀ root ∈ tree.roots, root.isStatement = true
  /-- Every node is as its form asks for. -/
  formed : ∀ node, tree.Holds node → node.Formed
  /-- Every part of a node stands in a role that it may stand in. -/
  placed : ∀ parent, tree.Holds parent → ∀ role part, (role, part) ∈ parent.parts →
    Node.Placed parent role part

end Tree

open Node in
/-- The tree of a shaped program is shaped. -/
theorem Program.Shaped.toTree {program : Program} (shaped : program.Shaped Token.Sound) :
    program.toTree.Shaped := by
  have names {tokens : List Token} (named : ∀ token ∈ tokens,
      token.Suits Token.Sound (· = .name)) : ∀ node ∈ tokens.map Node.name,
      (∃ token text, node = .name token ∧ token.name? = some text) ∧
        node.isStatement = true ∧ node.Whole := by
    refine List.forall_mem_map.mpr fun token member => ?_
    obtain ⟨text, carries⟩ := Token.exists_name_of_suits (named token member)
    exact ⟨⟨token, text, rfl, carries⟩, rfl,
      (Formed.name (named token member)).whole (List.forall_mem_nil _)⟩
  have declared {steps : List Declaration} (declared : Declared Token.Sound steps) :
      ∀ node ∈ steps.map Declaration.toNode, node.isStatement = true ∧ node.Whole :=
    List.forall_mem_map.mpr fun step member =>
      ⟨step.isStatement_toNode, declared.whole step member⟩
  have body : ∀ node ∈ program.toTree.main.toList.map (·.body),
      node.isStatement = true ∧ node.Whole := by
    refine List.forall_mem_map.mpr fun main member => ?_
    obtain ⟨entry, found, rfl⟩ := Option.map_eq_some_iff.mp (Option.mem_toList.mp member)
    have inner := shaped.entry entry found
    exact ⟨rfl, whole_block inner.opens fun item member => (inner.inner item member).whole⟩
  have includes := names shaped.includes
  have usings := names shaped.usings
  have roots : ∀ root ∈ program.toTree.roots, root.isStatement = true ∧ root.Whole :=
    List.forall_mem_append.mpr ⟨List.forall_mem_append.mpr ⟨List.forall_mem_append.mpr
      ⟨List.forall_mem_append.mpr ⟨fun node member => (includes node member).2,
        fun node member => (usings node member).2⟩, declared shaped.before⟩, body⟩,
      declared shaped.after⟩
  have formed : ∀ node, program.toTree.Holds node → node.Formed := by
    rintro node ⟨root, member, inside⟩
    exact (roots root member).2 node inside
  constructor
  · exact fun node member => (includes node member).1
  · exact fun node member => (usings node member).1
  · exact shaped.before.declarations
  · exact shaped.after.declarations
  · intro missing
    have after := shaped.settled (Option.map_eq_none_iff.mp missing)
    exact congrArg (List.map Declaration.toNode) after
  · intro main member
    obtain ⟨entry, found, rfl⟩ := Option.map_eq_some_iff.mp member
    have inner := shaped.entry entry found
    exact ⟨inner.named.2, inner.main, _, _, rfl⟩
  · exact fun root member => (roots root member).1
  · exact formed
  · exact fun parent held role part member => (formed parent held).placed (role, part) member

/-- The tree of every program that is parsed is shaped. Imports are variables that carry names;
declarations are variables and assignments of their initial values, and there are none behind a
missing main function; the main function is named `main` and has a body with a brace; every node
keeps the token of its own word, brace or operator and has parts of the forms that belong there;
types, cases and statements without a brace stand nowhere else. -/
theorem parse_shapes_program {source : String} {program : Program}
    (parsed : parse source = .ok program) : program.toTree.Shaped :=
  (Program.sound_of_parse parsed).toTree

/-- The tree of a program with a dotted header, an initial value, and a print statement in a case
is shaped. -/
theorem parse_shapes_program_case :
    ∃ program, parse ("#include <a.b>\nint x=1;int main()\x7bswitch(x)\x7bcase 1:cout<<x;" ++
        "default:for(int i=0;;)break;\x7d\x7d") = .ok program ∧
      program.toTree.includes ≠ [] ∧ program.toTree.before.length = 2 ∧
      program.toTree.main.isSome = true ∧ program.toTree.Shaped := by
  obtain ⟨program, parsed, includes, before, main⟩ :
      ∃ program, parse ("#include <a.b>\nint x=1;int main()\x7bswitch(x)\x7bcase 1:cout<<x;" ++
          "default:for(int i=0;;)break;\x7d\x7d") = .ok program ∧
        program.toTree.includes ≠ [] ∧ program.toTree.before.length = 2 ∧
        program.toTree.main.isSome = true :=
    ⟨_, by cbv, by simp [Program.toTree], rfl, rfl⟩
  exact ⟨program, parsed, includes, before, main, parse_shapes_program parsed⟩

end Cpplet

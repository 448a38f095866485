import Cpplet.Grammar.Program
import Cpplet.Proofs.Fencing

/-!
# The grammar leaves the end of the file alone

Every parser of the grammar is echoed if its parts are: with a fence behind the end of the file it
does the same, and with other parts it does the same as long as these do on the feeds that are left.
A token is moved past only where its kind was asked for, and nothing asks for the end of the file
in order to move past it.
-/

namespace Cpplet.Grammar

open Cpplet.Parser

variable {fence : Option Fault} {bound : Nat}

/-- The end of the file is none of the tokens `(type)`. -/
theorem castAhead_ends : ∀ test ∈ castAhead, ∀ location, test (.eof location) = false := by
  simp [castAhead, isKind, isTypeWord, Token.eof, Kind.isType]

/-- The end of the file is none of the tokens `type(`. -/
theorem callAhead_ends : ∀ test ∈ callAhead, ∀ location, test (.eof location) = false := by
  simp [callAhead, isKind, isTypeWord, Token.eof, Kind.isType]

/-- The end of the file is neither a variable nor an assignment operator. -/
theorem assignmentAhead_ends :
    ∀ test ∈ assignmentAhead, ∀ location, test (.eof location) = false := by
  simp [assignmentAhead, isKind, Token.eof, Kind.isAssignment]

/-- The end of the file is none of the tokens `int main (`. -/
theorem entryAhead_ends : ∀ test ∈ entryAhead, ∀ location, test (.eof location) = false := by
  simp [entryAhead, isKind, Token.eof]

/-- A constant is echoed. -/
theorem echoes_constant : Echoes fence bound constant constant := by
  refine echoes_kind fun feed small => ?_
  generalize shown : feed.kind = kind
  split
  rotate_right
  · exact echoes_unexpected _ feed small
  all_goals
    refine (echoesAt_advance ?_).bind small fun token => echoes_pure _
    rw [shown]
    decide

/-- Moving past one of some marks is echoed. -/
theorem echoesAt_advance_mark {marks : List Mark} {feed : Feed}
    (passes : isOneOf marks feed.kind = true) : EchoesAt fence feed advance advance := by
  refine echoesAt_advance fun final => ?_
  rw [final] at passes
  cases passes

section Expressions

variable {expr expr' operand operand' : Parser Expr}

/-- What needs no parentheses is echoed. -/
theorem echoes_primary (inner : Echoes fence bound expr expr') :
    Echoes fence bound (primary expr) (primary expr') := by
  refine echoes_kind fun feed small => ?_
  generalize feed.kind = kind
  revert feed
  show Echoes fence bound _ _
  split
  · exact (echoes_mark _).bind fun _ => inner.bind fun _ => (echoes_mark _).bind fun _ =>
      echoes_pure _
  · exact (echoes_eat (by decide)).bind fun _ => echoes_pure _
  rotate_right
  · exact echoes_unexpected _
  all_goals exact echoes_constant

/-- A primary expression with or without a step behind it is echoed. -/
theorem echoes_stepped (inner : Echoes fence bound expr expr') :
    Echoes fence bound (stepped expr) (stepped expr') := by
  refine (echoes_primary inner).bind fun operand => echoes_kind fun feed small => ?_
  split
  · rename_i passes
    exact (echoesAt_advance_mark passes).bind small fun op => echoes_pure _
  · exact echoes_pure _ feed small

/-- An expression that may begin with a step or a sign is echoed. -/
theorem echoes_signed (inner : Echoes fence bound expr expr')
    (tight : Echoes fence bound operand operand') :
    Echoes fence bound (signed expr operand) (signed expr' operand') := by
  have primary := echoes_stepped inner
  refine echoes_kind fun feed small => ?_
  split
  · rename_i passes
    exact (echoesAt_advance_mark passes).bind small fun op => primary.bind fun _ => echoes_pure _
  · split
    · rename_i passes
      exact (echoesAt_advance_mark passes).bind small fun op => tight.bind fun _ => echoes_pure _
    · exact primary feed small

/-- An operand of a binary operator is echoed. -/
theorem echoes_castOr (inner : Echoes fence bound expr expr')
    (tight : Echoes fence bound operand operand') :
    Echoes fence bound (castOr expr operand) (castOr expr' operand') := by
  refine echoes_ahead castAhead_ends ?_ (echoes_ahead callAhead_ends ?_ (echoes_signed inner tight))
  · exact (echoes_mark _).bind fun _ => (echoes_satisfy rfl _).bind fun _ =>
      (echoes_mark _).bind fun _ => tight.bind fun _ => echoes_pure _
  · exact (echoes_satisfy rfl _).bind fun _ => (echoes_mark _).bind fun _ => inner.bind fun _ =>
      (echoes_mark _).bind fun _ => echoes_pure _

/-- Operands with operators of one level between them are echoed. -/
theorem echoes_level (marks : List Mark) (tight : Echoes fence bound operand operand') :
    Echoes fence bound (level marks operand) (level marks operand') := by
  refine tight.bind fun first => (echoes_many (fun feed => ?_) fun feed small goes => ?_).bind
    fun others => echoes_pure _
  · rw [Feed.kind_fenced]
  · exact (echoesAt_advance_mark goes).bind small fun op => tight.bind fun right => echoes_pure _

/-- Operands with operators of several levels between them are echoed. -/
theorem echoes_ladder (tight : Echoes fence bound operand operand') (levels : List (List Mark)) :
    Echoes fence bound (ladder operand levels) (ladder operand' levels) := by
  induction levels with
  | nil => exact tight
  | cons marks tighter ih => exact echoes_level marks ih

/-- A condition, and a choice where a question mark follows it. -/
def chosen (condition expr : Parser Expr) : Parser Expr := do
  let condition ← condition
  if (← kind) = .mark .question then
    let _ ← mark .question
    let whenTrue ← expr
    let _ ← mark .colon
    return .conditional condition whenTrue (← expr)
  else return condition

/-- The condition of an expression is an expression with binary operators. -/
theorem conditional_eq_chosen (expr operand : Parser Expr) :
    conditional expr operand = chosen (ladder operand binaryLevels) expr := rfl

/-- A condition, and a choice behind it, is echoed. -/
theorem echoes_chosen {condition condition' : Parser Expr}
    (test : Echoes fence bound condition condition') (inner : Echoes fence bound expr expr') :
    Echoes fence bound (chosen condition expr) (chosen condition' expr') := by
  refine test.bind fun condition => echoes_kind_ite ?_ (echoes_pure _)
  exact (echoes_mark _).bind fun _ => inner.bind fun _ => (echoes_mark _).bind fun _ =>
    inner.bind fun _ => echoes_pure _

end Expressions

section Statements

variable {expr expr' : Parser Expr} {statement statement' : Parser Stmt}

/-- A fence does not show in whether a declaration list begins. -/
theorem atDeclaration_fenced (feed : Feed) :
    atDeclaration (feed.fenced fence) = atDeclaration feed := by
  rw [atDeclaration, atDeclaration, Feed.kind_fenced]

/-- A name is echoed. -/
theorem echoes_name : Echoes fence bound name name := echoes_eat (by decide)

/-- The type of a declaration list is echoed. -/
theorem echoes_typeName : Echoes fence bound typeName typeName := by
  refine echoes_kind_ite ?_ ((echoes_satisfy rfl _).bind fun _ => echoes_pure _)
  exact (echoes_word _).bind fun _ => (echoes_satisfy rfl _).bind fun _ => echoes_pure _

/-- One declared variable is echoed. -/
theorem echoes_declarator (inner : Echoes fence bound expr expr') (type : TypeName) :
    Echoes fence bound (declarator expr type) (declarator expr' type) := by
  refine echoes_name.bind fun target => echoes_kind_ite ?_ (echoes_pure _)
  exact (echoes_mark _).bind fun _ => inner.bind fun _ => echoes_pure _

/-- A declaration list is echoed. -/
theorem echoes_declarations (inner : Echoes fence bound expr expr') :
    Echoes fence bound (declarations expr) (declarations expr') := by
  refine echoes_typeName.bind fun type => ?_
  have one := echoes_declarator inner type
  have next : Echoes fence bound (nextDeclarator expr type) (nextDeclarator expr' type) :=
    (echoes_mark _).bind fun _ => one
  exact one.bind fun _ => (echoes_manyAt _ next).bind fun _ => (echoes_mark _).bind fun _ =>
    echoes_pure _

/-- An assignment or an expression is echoed. -/
theorem echoes_assignmentOr (inner : Echoes fence bound expr expr') :
    Echoes fence bound (assignmentOr expr) (assignmentOr expr') := by
  refine echoes_ahead assignmentAhead_ends ?_ (inner.bind fun _ => echoes_pure _)
  exact echoes_name.bind fun _ => (echoes_satisfy rfl _).bind fun _ => inner.bind fun _ =>
    echoes_pure _

/-- A simple statement is echoed. -/
theorem echoes_simple (inner : Echoes fence bound expr expr') :
    Echoes fence bound (simple expr) (simple expr') := by
  refine echoes_kind_ite ?_ ?_
  · exact (echoes_mark _).bind fun _ => echoes_pure _
  · exact (echoes_assignmentOr inner).bind fun _ => (echoes_mark _).bind fun _ => echoes_pure _

/-- The items of a block are echoed. -/
theorem echoes_items (inner : Echoes fence bound expr expr')
    (below : Echoes fence bound statement statement') (closers : List Kind) :
    Echoes fence bound (items expr statement closers) (items expr' statement' closers) := by
  have one : Echoes fence bound (item expr statement) (item expr' statement') :=
    echoes_choose atDeclaration_fenced ((echoes_declarations inner).bind fun _ => echoes_pure _)
      (below.bind fun _ => echoes_pure _)
  have blind : ∀ feed : Feed, before closers (feed.fenced fence) = before closers feed := by
    intro feed
    rw [before, before, Feed.kind_fenced]
  exact (echoes_many blind fun feed small _ => one feed small).bind fun _ => echoes_pure _

/-- Items between braces are echoed. -/
theorem echoes_braced (inner : Echoes fence bound expr expr')
    (below : Echoes fence bound statement statement') :
    Echoes fence bound (braced expr statement) (braced expr' statement') :=
  (echoes_mark _).bind fun _ => (echoes_items inner below _).bind fun _ =>
    (echoes_mark _).bind fun _ => echoes_pure _

/-- An expression between parentheses is echoed. -/
theorem echoes_parenthesized (inner : Echoes fence bound expr expr') :
    Echoes fence bound (parenthesized expr) (parenthesized expr') :=
  (echoes_mark _).bind fun _ => inner.bind fun _ => (echoes_mark _).bind fun _ => echoes_pure _

/-- An `if` statement is echoed. -/
theorem echoes_branch (inner : Echoes fence bound expr expr')
    (below : Echoes fence bound statement statement') :
    Echoes fence bound (branch expr statement) (branch expr' statement') := by
  refine (echoes_word _).bind fun word => (echoes_parenthesized inner).bind fun condition =>
    below.bind fun body => echoes_kind_ite ?_ (echoes_pure _)
  exact (echoes_word _).bind fun _ => below.bind fun _ => echoes_pure _

/-- A loop with its test first is echoed. -/
theorem echoes_whileLoop (inner : Echoes fence bound expr expr')
    (below : Echoes fence bound statement statement') :
    Echoes fence bound (whileLoop expr statement) (whileLoop expr' statement') :=
  (echoes_word _).bind fun _ => (echoes_parenthesized inner).bind fun _ => below.bind fun _ =>
    echoes_pure _

/-- A loop with its test last is echoed. -/
theorem echoes_doLoop (inner : Echoes fence bound expr expr')
    (below : Echoes fence bound statement statement') :
    Echoes fence bound (doLoop expr statement) (doLoop expr' statement') :=
  (echoes_word _).bind fun _ => below.bind fun _ => (echoes_word _).bind fun _ =>
    (echoes_parenthesized inner).bind fun _ => (echoes_mark _).bind fun _ => echoes_pure _

/-- A loop with a start, a test and an action is echoed. -/
theorem echoes_forLoop (inner : Echoes fence bound expr expr')
    (below : Echoes fence bound statement statement') :
    Echoes fence bound (forLoop expr statement) (forLoop expr' statement') := by
  have start : Echoes fence bound (forStart expr) (forStart expr') :=
    echoes_choose atDeclaration_fenced ((echoes_declarations inner).bind fun _ => echoes_pure _)
      ((echoes_simple inner).bind fun _ => echoes_pure _)
  have action : Echoes fence bound (forAction expr) (forAction expr') :=
    echoes_kind_ite (echoes_pure _) (echoes_assignmentOr inner)
  exact (echoes_word _).bind fun _ => (echoes_mark _).bind fun _ => start.bind fun _ =>
    (echoes_simple inner).bind fun _ => action.bind fun _ => (echoes_mark _).bind fun _ =>
      below.bind fun _ => echoes_pure _

/-- A `return` statement is echoed. -/
theorem echoes_returnBack (inner : Echoes fence bound expr expr') :
    Echoes fence bound (returnBack expr) (returnBack expr') := by
  refine (echoes_word _).bind fun word => echoes_kind_ite ?_ ?_
  · exact (echoes_mark _).bind fun _ => echoes_pure _
  · exact inner.bind fun _ => (echoes_mark _).bind fun _ => echoes_pure _

/-- A choice between cases is echoed. -/
theorem echoes_switch (inner : Echoes fence bound expr expr')
    (below : Echoes fence bound statement statement') :
    Echoes fence bound (switch expr statement) (switch expr' statement') := by
  have body : Echoes fence bound (caseBody expr statement) (caseBody expr' statement') :=
    echoes_items inner below _
  have label : Echoes fence bound caseLabel caseLabel :=
    echoes_kind_ite (echoes_name.bind fun _ => echoes_pure _) echoes_constant
  have one : Echoes fence bound (case expr statement) (case expr' statement') :=
    (echoes_word _).bind fun _ => label.bind fun _ => (echoes_mark _).bind fun _ =>
      body.bind fun _ => echoes_pure _
  have fallback : Echoes fence bound (fallback expr statement) (fallback expr' statement') := by
    refine echoes_kind_ite ?_ (echoes_pure _)
    exact (echoes_word _).bind fun _ => (echoes_mark _).bind fun _ => body.bind fun _ =>
      echoes_pure _
  exact (echoes_word _).bind fun _ => (echoes_parenthesized inner).bind fun _ =>
    (echoes_mark _).bind fun _ => (echoes_manyAt _ one).bind fun _ => fallback.bind fun _ =>
      (echoes_mark _).bind fun _ => echoes_pure _

/-- A print statement is echoed. -/
theorem echoes_print {additive additive' : Parser Expr}
    (inner : Echoes fence bound additive additive') :
    Echoes fence bound (print additive) (print additive') := by
  have one : Echoes fence bound (printItem additive) (printItem additive') :=
    (echoes_mark _).bind fun _ => inner
  exact (echoes_word _).bind fun _ => one.bind fun _ => (echoes_manyAt _ one).bind fun _ =>
    (echoes_mark _).bind fun _ => echoes_pure _

/-- A statement, chosen by its first token, is echoed. -/
theorem echoes_statementOf {additive additive' : Parser Expr}
    (inner : Echoes fence bound expr expr') (sum : Echoes fence bound additive additive')
    (below : Echoes fence bound statement statement') :
    Echoes fence bound (statementOf expr additive statement)
      (statementOf expr' additive' statement') := by
  have single : ∀ keyword build,
      Echoes fence bound (single keyword build) (single keyword build) := fun _ _ =>
    (echoes_word _).bind fun _ => (echoes_mark _).bind fun _ => echoes_pure _
  refine echoes_kind fun feed small => ?_
  generalize feed.kind = kind
  revert feed
  show Echoes fence bound _ _
  split
  · exact echoes_branch inner below
  · exact (echoes_braced inner below).bind fun _ => echoes_pure _
  · exact echoes_whileLoop inner below
  · exact echoes_doLoop inner below
  · exact echoes_forLoop inner below
  · exact echoes_returnBack inner
  · exact single _ _
  · exact single _ _
  · exact echoes_switch inner below
  · exact echoes_print sum
  · exact (echoes_simple inner).bind fun _ => echoes_pure _

end Statements

/-! ## With a budget -/

/-- Expressions and operands echo themselves. -/
theorem echoes_expr_operand (budget : Nat) :
    Echoes fence bound (expr budget) (expr budget) ∧
      Echoes fence bound (operand budget) (operand budget) := by
  induction budget with
  | zero =>
    rw [expr, operand]
    exact ⟨echoes_tooDeep _, echoes_tooDeep _⟩
  | succ budget ih =>
    obtain ⟨inner, tight⟩ := ih
    rw [expr, operand, conditional_eq_chosen]
    exact ⟨echoes_chosen (echoes_ladder tight _) inner, echoes_castOr inner tight⟩

/-- Expressions echo themselves. -/
theorem echoes_expr (budget : Nat) : Echoes fence bound (expr budget) (expr budget) :=
  (echoes_expr_operand budget).1

/-- Sums echo themselves. -/
theorem echoes_additive (budget : Nat) : Echoes fence bound (additive budget) (additive budget) :=
  echoes_ladder (echoes_expr_operand budget).2 _

/-- Statements echo themselves. -/
theorem echoes_statement (budget : Nat) :
    Echoes fence bound (statement budget) (statement budget) := by
  induction budget with
  | zero => exact echoes_tooDeep _
  | succ budget below =>
    rw [statement]
    exact echoes_statementOf (echoes_expr budget) (echoes_additive budget) below

/-- A used namespace echoes itself. -/
theorem echoes_usingLine : Echoes fence bound usingLine usingLine :=
  (echoes_word _).bind fun _ => (echoes_word _).bind fun _ => echoes_name.bind fun _ =>
    (echoes_mark _).bind fun _ => echoes_pure _

/-- An included header echoes itself. -/
theorem echoes_includeLine : Echoes fence bound includeLine includeLine := by
  have next : Echoes fence bound nextPart nextPart := (echoes_mark _).bind fun _ => echoes_name
  have header : Echoes fence bound headerName headerName :=
    echoes_name.bind fun _ => (echoes_manyAt _ next).bind fun _ => echoes_pure _
  exact (echoes_mark _).bind fun _ => (echoes_word _).bind fun _ => (echoes_mark _).bind fun _ =>
    header.bind fun _ => (echoes_mark _).bind fun _ => echoes_pure _

/-- The entry point echoes itself. -/
theorem echoes_entryPoint (budget : Nat) :
    Echoes fence bound (entryPoint budget) (entryPoint budget) :=
  (echoes_word _).bind fun _ => echoes_name.bind fun _ => (echoes_mark _).bind fun _ =>
    (echoes_mark _).bind fun _ =>
      (echoes_braced (echoes_expr budget) (echoes_statement budget)).bind fun _ => echoes_pure _

/-- Something that stands before the entry point echoes itself. -/
theorem echoes_opening (budget : Nat) : Echoes fence bound (opening budget) (opening budget) := by
  refine echoes_kind fun feed small => ?_
  generalize feed.kind = kind
  revert feed
  show Echoes fence bound _ _
  split
  · exact echoes_usingLine
  · exact echoes_includeLine
  · exact (echoes_declarations (echoes_expr budget)).bind fun _ => echoes_pure _

/-- A whole program echoes itself. -/
theorem echoes_wholeProgram (budget : Nat) :
    Echoes fence bound (wholeProgram budget) (wholeProgram budget) := by
  have blind : ∀ feed : Feed, atOpening (feed.fenced fence) = atOpening feed := by
    intro feed
    rw [atOpening, atOpening, Feed.kind_fenced, atDeclaration_fenced,
      Feed.startsWith_fenced entryAhead_ends]
  have entry : Echoes fence bound (entryPoint? budget) (entryPoint? budget) :=
    echoes_ahead entryAhead_ends ((echoes_entryPoint budget).bind fun _ => echoes_pure _)
      (echoes_pure _)
  have declares : Echoes fence bound (declarations (expr budget)) (declarations (expr budget)) :=
    echoes_declarations (echoes_expr budget)
  have program : Echoes fence bound (program budget) (program budget) :=
    (echoes_many blind fun feed small _ => echoes_opening budget feed small).bind fun _ =>
      entry.bind fun _ =>
        (echoes_many atDeclaration_fenced fun feed small _ => declares feed small).bind fun _ =>
          echoes_pure _
  exact program.bind fun _ => echoes_kind_ite (echoes_pure _) (echoes_unexpected _)

end Cpplet.Grammar

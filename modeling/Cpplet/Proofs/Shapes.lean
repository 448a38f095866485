import Cpplet.Proofs.Acceptance
import Cpplet.Proofs.Scanning

/-!
# The shape of parsed programs

The trees fix which parts a node has: a declaration has a type and a name, a case has a label and
a body without a brace, and types, cases and such bodies stand nowhere else. They do not fix the
tokens. In a program that was parsed every token is of a kind that belongs where it stands, an
initial value is assigned right behind the declaration of its variable, something is printed by
every print statement, and only a name or a constant labels a case.

`Expr.Shaped`, `Stmt.Shaped` and `Program.Shaped` say this, and with it that all tokens of a tree
are good, in whatever sense the tokens of the source are. Good is for instance a token whose value
is of the sort that its kind asks for (`Token.Sound`).
-/

namespace Cpplet

open Grammar

/-- Whether a token is good and of a kind among some kinds. -/
def Token.Suits (good : Token → Prop) (kinds : Kind → Prop) (token : Token) : Prop :=
  good token ∧ kinds token.kind

/-- Whether an expression is a name or a constant. -/
def Expr.isLeaf : Expr → Bool
  | .name _ | .number _ | .string _ | .truth _ => true
  | _ => false

/-- Expressions whose tokens are good and of kinds that belong where they stand. -/
inductive Expr.Shaped (good : Token → Prop) : Expr → Prop where
  /-- A variable is a name. -/
  | name {token : Token} (suits : token.Suits good (· = .name)) : Shaped good (.name token)
  /-- A number is an integer, floating-point or character constant. -/
  | number {token : Token} (suits : token.Suits good fun kind =>
      kind = .integer ∨ kind = .float ∨ kind = .char) : Shaped good (.number token)
  /-- A text is a string constant. -/
  | string {token : Token} (suits : token.Suits good (· = .string)) : Shaped good (.string token)
  /-- A truth value is one of two reserved words. -/
  | truth {token : Token} (suits : token.Suits good fun kind =>
      kind = .keyword .trueWord ∨ kind = .keyword .falseWord) : Shaped good (.truth token)
  /-- A sign stands before its operand. -/
  | unary {op : Token} {operand : Expr} (suits : op.Suits good fun kind =>
      ∃ symbol : Mark, kind = .mark symbol ∧ symbol.isSign = true)
      (inner : Shaped good operand) : Shaped good (.unary op operand)
  /-- A cast names a type. -/
  | cast {type : Token} {operand : Expr} (suits : type.Suits good (·.isType = true))
      (inner : Shaped good operand) : Shaped good (.cast type operand)
  /-- A step stands before its operand. -/
  | preStep {op : Token} {operand : Expr} (suits : op.Suits good fun kind =>
      ∃ symbol : Mark, kind = .mark symbol ∧ symbol.isStep = true)
      (inner : Shaped good operand) : Shaped good (.preStep op operand)
  /-- A step stands behind its operand. -/
  | postStep {op : Token} {operand : Expr} (inner : Shaped good operand)
      (suits : op.Suits good fun kind =>
        ∃ symbol : Mark, kind = .mark symbol ∧ symbol.isStep = true) :
      Shaped good (.postStep operand op)
  /-- A binary operator stands between its operands. -/
  | binary {left right : Expr} {op : Token} (first : Shaped good left)
      (suits : op.Suits good fun kind =>
        ∃ symbol : Mark, kind = .mark symbol ∧ symbol.tightness.isSome = true)
      (second : Shaped good right) : Shaped good (.binary left op right)
  /-- A choice keeps no token of its own. -/
  | conditional {condition whenTrue whenFalse : Expr} (test : Shaped good condition)
      (first : Shaped good whenTrue) (second : Shaped good whenFalse) :
      Shaped good (.conditional condition whenTrue whenFalse)

/-- Whether a declared type is named by a good token for a type. -/
def TypeName.Shaped (good : Token → Prop) (type : TypeName) : Prop :=
  type.token.Suits good (·.isType = true)

/-- Declaration lists with good tokens. An initial value is assigned by a plain assignment, right
behind the declaration of the very variable that gets it. -/
inductive Declared (good : Token → Prop) : List Declaration → Prop where
  /-- No declaration. -/
  | nil : Declared good []
  /-- A variable without an initial value. -/
  | plain {type : TypeName} {name : Token} {others : List Declaration} (typed : type.Shaped good)
      (named : name.Suits good (· = .name)) (tail : Declared good others) :
      Declared good (.declare type name :: others)
  /-- A variable with an initial value. -/
  | initial {type : TypeName} {target op : Token} {value : Expr} {others : List Declaration}
      (typed : type.Shaped good) (named : target.Suits good (· = .name))
      (assigns : op.Suits good (· = .mark .assign)) (inner : value.Shaped good)
      (tail : Declared good others) :
      Declared good (.declare type target :: .initial target op value :: others)

/-- Simple statements with good tokens. -/
inductive Simple.Shaped (good : Token → Prop) : Simple → Prop where
  /-- Nothing. -/
  | nothing : Shaped good .nothing
  /-- A name, an assignment operator and a value. -/
  | assign {target op : Token} {value : Expr} (named : target.Suits good (· = .name))
      (assigns : op.Suits good (·.isAssignment = true)) (inner : value.Shaped good) :
      Shaped good (.assign target op value)
  /-- An expression. -/
  | evaluate {expr : Expr} (inner : expr.Shaped good) : Shaped good (.evaluate expr)

/-- Beginnings of `for` statements with good tokens. -/
inductive ForStart.Shaped (good : Token → Prop) : ForStart → Prop where
  /-- Declarations. -/
  | declarations {steps : List Declaration} (inner : Declared good steps) :
      Shaped good (.declarations steps)
  /-- A simple statement. -/
  | simple {statement : Simple} (inner : statement.Shaped good) : Shaped good (.simple statement)

/-- Statements with good tokens, each of which keeps its own brace or reserved word. -/
inductive Stmt.Shaped (good : Token → Prop) : Stmt → Prop where
  /-- A block is opened by a brace. -/
  | block {brace : Token} {items : List Stmt} (opens : brace.Suits good (· = .mark .leftBrace))
      (inner : ∀ item ∈ items, Shaped good item) : Shaped good (.block brace items)
  /-- A declared variable. -/
  | declare {type : TypeName} {name : Token} (typed : type.Shaped good)
      (named : name.Suits good (· = .name)) : Shaped good (.declare type name)
  /-- A simple statement. -/
  | simple {statement : Simple} (inner : statement.Shaped good) : Shaped good (.simple statement)
  /-- One value is printed at least. -/
  | print {word : Token} {items : List Expr}
      (first : word.Suits good (· = .keyword .coutWord)) (some : items ≠ [])
      (inner : ∀ item ∈ items, item.Shaped good) : Shaped good (.print word items)
  /-- A choice between two statements. -/
  | branch {word : Token} {condition : Expr} {body : Stmt} {otherwise : Option Stmt}
      (first : word.Suits good (· = .keyword .ifWord)) (test : condition.Shaped good)
      (inner : Shaped good body) (last : ∀ other ∈ otherwise, Shaped good other) :
      Shaped good (.branch word condition body otherwise)
  /-- A loop with its test first. -/
  | whileLoop {word : Token} {condition : Expr} {body : Stmt}
      (first : word.Suits good (· = .keyword .whileWord)) (test : condition.Shaped good)
      (inner : Shaped good body) : Shaped good (.whileLoop word condition body)
  /-- A loop with its test last. -/
  | doLoop {word : Token} {body : Stmt} {condition : Expr}
      (first : word.Suits good (· = .keyword .doWord)) (inner : Shaped good body)
      (test : condition.Shaped good) : Shaped good (.doLoop word body condition)
  /-- A loop with a start, a test and an action. -/
  | forLoop {word : Token} {start : ForStart} {condition action : Simple} {body : Stmt}
      (first : word.Suits good (· = .keyword .forWord)) (begins : start.Shaped good)
      (test : condition.Shaped good) (step : action.Shaped good) (inner : Shaped good body) :
      Shaped good (.forLoop word start condition action body)
  /-- A `break`. -/
  | breakOut {word : Token} (first : word.Suits good (· = .keyword .breakWord)) :
      Shaped good (.breakOut word)
  /-- A `continue`. -/
  | continueLoop {word : Token} (first : word.Suits good (· = .keyword .continueWord)) :
      Shaped good (.continueLoop word)
  /-- A `return`. -/
  | returnBack {word : Token} {value : Option Expr}
      (first : word.Suits good (· = .keyword .returnWord))
      (inner : ∀ expr ∈ value, expr.Shaped good) : Shaped good (.returnBack word value)
  /-- A choice between cases, each of which is labelled with a name or a constant. -/
  | switch {word : Token} {condition : Expr} {cases : List Case} {fallback : Option (List Stmt)}
      (first : word.Suits good (· = .keyword .switchWord)) (test : condition.Shaped good)
      (labels : ∀ label body, .mk label body ∈ cases →
        label.isLeaf = true ∧ label.Shaped good)
      (choices : ∀ label body, .mk label body ∈ cases → ∀ item ∈ body, Shaped good item)
      (last : ∀ body ∈ fallback, ∀ item ∈ body, Shaped good item) :
      Shaped good (.switch word condition cases fallback)

/-- Entry points with good tokens. -/
structure EntryPoint.Shaped (good : Token → Prop) (entry : EntryPoint) : Prop where
  /-- The function is named by a name. -/
  named : entry.name.Suits good (· = .name)
  /-- The name is `main`. -/
  main : entry.name.name? = some "main"
  /-- The body is opened by a brace. -/
  opens : entry.brace.Suits good (· = .mark .leftBrace)
  /-- The statements of the body are shaped. -/
  inner : ∀ item ∈ entry.body, item.Shaped good

/-- Programs with good tokens. -/
structure Program.Shaped (good : Token → Prop) (program : Program) : Prop where
  /-- Included headers are names. -/
  includes : ∀ header ∈ program.includes, header.Suits good (· = .name)
  /-- Used namespaces are names. -/
  usings : ∀ space ∈ program.usings, space.Suits good (· = .name)
  /-- The declarations before the entry point. -/
  before : Declared good program.before
  /-- The entry point. -/
  entry : ∀ entry ∈ program.entry, entry.Shaped good
  /-- The declarations behind the entry point. -/
  after : Declared good program.after
  /-- Behind a missing entry point there are none. -/
  settled : program.Settled

/-! ## What is written is shaped -/

variable {good : Token → Prop}

/-- What holds of every sequence of a language that is made of good tokens holds of every value
that a repetition of it is read as. -/
theorem Language.Star.forall_mem {α : Type} {language : Language α} {post : α → Prop}
    {tokens : List Token} {values : List α} (star : Star language tokens values)
    (all : ∀ token ∈ tokens, good token)
    (step : ∀ front value, language front value → (∀ token ∈ front, good token) → post value) :
    ∀ value ∈ values, post value := by
  induction star with
  | nil => exact List.forall_mem_nil _
  | cons first others ih =>
    obtain ⟨front, behind⟩ := List.forall_mem_append.mp all
    exact List.forall_mem_cons.mpr ⟨step _ _ first front, ih behind⟩

/-- An expression that is written with good tokens is shaped. -/
theorem Writes.shaped {rank : Nat} {tokens : List Token} {expr : Expr} {cost : Nat}
    (writes : Writes rank tokens expr cost) (all : ∀ token ∈ tokens, good token) :
    expr.Shaped good := by
  -- Parentheses and ranks leave no trace in the tree, so their cases only pass the tokens on.
  induction writes with
  | name kind => exact .name ⟨List.forall_mem_singleton.mp all, kind⟩
  | number kind => exact .number ⟨List.forall_mem_singleton.mp all, kind⟩
  | string kind => exact .string ⟨List.forall_mem_singleton.mp all, kind⟩
  | truth kind => exact .truth ⟨List.forall_mem_singleton.mp all, kind⟩
  | paren opening inner closing ih =>
    obtain ⟨-, rest⟩ := List.forall_mem_cons.mp all
    exact ih (List.forall_mem_append.mp rest).1
  | postStep inner kind step ih =>
    obtain ⟨front, here⟩ := List.forall_mem_append.mp all
    exact .postStep (ih front) ⟨List.forall_mem_singleton.mp here, _, kind, step⟩
  | preStep kind step inner ih =>
    obtain ⟨here, behind⟩ := List.forall_mem_cons.mp all
    exact .preStep ⟨here, _, kind, step⟩ (ih behind)
  | unary kind sign inner ih =>
    obtain ⟨here, behind⟩ := List.forall_mem_cons.mp all
    exact .unary ⟨here, _, kind, sign⟩ (ih behind)
  | operand inner ih => exact ih all
  | cast opening kind closing inner ih =>
    simp only [List.forall_mem_cons] at all
    obtain ⟨-, here, -, behind⟩ := all
    exact .cast ⟨here, kind⟩ (ih behind)
  | call kind opening inner closing ih =>
    simp only [List.forall_mem_cons, List.forall_mem_append] at all
    obtain ⟨here, -, behind, -⟩ := all
    exact .cast ⟨here, kind⟩ (ih behind)
  | binary first kind tight second ihFirst ihSecond =>
    simp only [List.forall_mem_cons, List.forall_mem_append] at all
    obtain ⟨front, here, behind⟩ := all
    exact .binary (ihFirst front) ⟨here, _, kind, by rw [tight]; rfl⟩ (ihSecond behind)
  | conditional test asks first parts second ihTest ihFirst ihSecond =>
    simp only [List.forall_mem_cons, List.forall_mem_append] at all
    obtain ⟨front, -, middle, -, behind⟩ := all
    exact .conditional (ihTest front) (ihFirst middle) (ihSecond behind)
  | tighter other inner ih => exact ih all

/-- An expression that is written at a rank with good tokens is shaped. -/
theorem written_shaped {rank : Nat} {tokens : List Token} {expr : Expr}
    (writes : written rank tokens expr) (all : ∀ token ∈ tokens, good token) :
    expr.Shaped good := by
  obtain ⟨cost, writes⟩ := writes
  exact writes.shaped all

/-- A declared type that is written with good tokens is shaped. -/
theorem TypeWritten.shaped {tokens : List Token} {type : TypeName}
    (writes : TypeWritten tokens type) (all : ∀ token ∈ tokens, good token) :
    type.Shaped good := by
  cases writes with
  | plain kind => exact ⟨List.forall_mem_singleton.mp all, kind⟩
  | const first kind =>
    obtain ⟨-, here⟩ := List.forall_mem_cons.mp all
    exact ⟨List.forall_mem_singleton.mp here, kind⟩

/-- Declaration lists stay shaped one behind the other. -/
theorem Declared.append {first second : List Declaration} (left : Declared good first)
    (right : Declared good second) : Declared good (first ++ second) := by
  induction left with
  | nil => exact right
  | plain typed named tail ih => exact .plain typed named ih
  | initial typed named assigns inner tail ih => exact .initial typed named assigns inner ih

/-- Any number of declaration lists stay shaped one behind the other. -/
theorem Declared.flatten {lists : List (List Declaration)}
    (all : ∀ list ∈ lists, Declared good list) : Declared good lists.flatten := by
  induction lists with
  | nil => exact .nil
  | cons first others ih =>
    obtain ⟨here, behind⟩ := List.forall_mem_cons.mp all
    exact here.append (ih behind)

/-- A declared variable that is written with good tokens is shaped. -/
theorem DeclaratorWritten.declared {type : TypeName} {tokens : List Token}
    {steps : List Declaration} (writes : DeclaratorWritten type tokens steps)
    (typed : type.Shaped good) (all : ∀ token ∈ tokens, good token) : Declared good steps := by
  cases writes with
  | plain kind => exact .plain typed ⟨List.forall_mem_singleton.mp all, kind⟩ .nil
  | initial kind assigns inner =>
    simp only [List.forall_mem_cons] at all
    obtain ⟨target, op, value⟩ := all
    exact .initial typed ⟨target, kind⟩ ⟨op, assigns⟩ (written_shaped inner value) .nil

/-- A declaration list that is written with good tokens is shaped. -/
theorem DeclarationsWritten.declared {tokens : List Token} {steps : List Declaration}
    (writes : DeclarationsWritten tokens steps) (all : ∀ token ∈ tokens, good token) :
    Declared good steps := by
  obtain ⟨typed, head, tail, ends⟩ := writes
  simp only [List.forall_mem_append] at all
  obtain ⟨front, middle, behind, -⟩ := all
  have type := typed.shaped front
  refine (head.declared type middle).append (.flatten (tail.forall_mem behind ?_))
  rintro _ steps ⟨-, member⟩ whole
  exact member.declared type (List.forall_mem_cons.mp whole).2

/-- Declarations are shaped among statements. -/
theorem Declared.toStmt {steps : List Declaration} (declared : Declared good steps) :
    ∀ item ∈ steps.map Declaration.toStmt, item.Shaped good := by
  induction declared with
  | nil => exact List.forall_mem_nil _
  | plain typed named tail ih => exact List.forall_mem_cons.mpr ⟨.declare typed named, ih⟩
  | initial typed named assigns inner tail ih =>
    have assignment : Kind.isAssignment (.mark .assign) = true := rfl
    have value := Simple.Shaped.assign named ⟨assigns.1, assigns.2 ▸ assignment⟩ inner
    exact List.forall_mem_cons.mpr
      ⟨.declare typed named, List.forall_mem_cons.mpr ⟨.simple value, ih⟩⟩

/-- An action that is written with good tokens is shaped. -/
theorem ActionWritten.shaped {tokens : List Token} {action : Simple}
    (writes : ActionWritten tokens action) (all : ∀ token ∈ tokens, good token) :
    action.Shaped good := by
  cases writes with
  | assign kind assigns inner =>
    simp only [List.forall_mem_cons] at all
    obtain ⟨target, op, value⟩ := all
    exact .assign ⟨target, kind⟩ ⟨op, assigns⟩ (written_shaped inner value)
  | evaluate inner => exact .evaluate (written_shaped inner all)

/-- A simple statement that is written with good tokens is shaped. -/
theorem SimpleWritten.shaped {tokens : List Token} {statement : Simple}
    (writes : SimpleWritten tokens statement) (all : ∀ token ∈ tokens, good token) :
    statement.Shaped good := by
  cases writes with
  | nothing ends => exact .nothing
  | action inner ends => exact inner.shaped (List.forall_mem_append.mp all).1

/-- The beginning of a `for` statement that is written with good tokens is shaped. -/
theorem ForStartWritten.shaped {tokens : List Token} {start : ForStart}
    (writes : ForStartWritten tokens start) (all : ∀ token ∈ tokens, good token) :
    start.Shaped good := by
  cases writes with
  | declarations inner => exact .declarations (inner.declared all)
  | simple inner other => exact .simple (inner.shaped all)

/-- What a `for` statement does after each round, written with good tokens, is shaped. -/
theorem ForActionWritten.shaped {tokens : List Token} {action : Simple}
    (writes : ForActionWritten tokens action) (all : ∀ token ∈ tokens, good token) :
    action.Shaped good := by
  cases writes with
  | nothing => exact .nothing
  | action inner => exact inner.shaped all

/-- The label of a case is a name or a constant, and it is shaped if its token is good. -/
theorem labels_shaped {tokens : List Token} {label : Expr} (named : labels tokens label)
    (all : ∀ token ∈ tokens, good token) : label.isLeaf = true ∧ label.Shaped good := by
  obtain ⟨token, rfl, writes⟩ := named
  refine ⟨?_, writes.shaped all⟩
  -- One token at the tightest rank is neither in parentheses nor an operator with operands.
  generalize one : [token] = tokens at writes
  generalize 0 = cost at writes
  cases writes with
  | name kind => rfl
  | number kind => rfl
  | string kind => rfl
  | truth kind => rfl
  | paren opening inner closing => simp at one
  | binary first kind tight second =>
    have bound := (Mark.tightness_bounds tight).2
    simp only [Rank.primary] at bound
    omega
  | tighter other inner =>
    have bound := rank_le_of_writes inner
    simp only [Rank.primary] at bound
    omega

/-- A printed value that is written with good tokens is shaped. -/
theorem printed_shaped {tokens : List Token} {value : Expr} (writes : printed tokens value)
    (all : ∀ token ∈ tokens, good token) : value.Shaped good := by
  obtain ⟨-, member⟩ := writes
  exact written_shaped member (List.forall_mem_cons.mp all).2

/-- Phrases with good tokens. -/
def Phrase.Shaped (good : Token → Prop) : Phrase → Prop
  | .statement tree => tree.Shaped good
  | .items trees => ∀ tree ∈ trees, tree.Shaped good
  | .cases trees => ∀ label body, .mk label body ∈ trees →
      (label.isLeaf = true ∧ label.Shaped good) ∧ ∀ item ∈ body, item.Shaped good
  | .fallback trees => ∀ body ∈ trees, ∀ item ∈ body, item.Shaped good

/-- A phrase that is written with good tokens is shaped. -/
theorem PhraseWritten.shaped {phrase : Phrase} {tokens : List Token}
    (writes : PhraseWritten phrase tokens) (all : ∀ token ∈ tokens, good token) :
    phrase.Shaped good := by
  induction writes with
  | simple inner => exact .simple (inner.shaped all)
  | block opens inner closes ih =>
    simp only [List.forall_mem_cons, List.forall_mem_append] at all
    obtain ⟨brace, body, -⟩ := all
    exact .block ⟨brace, opens⟩ (ih body)
  | branch first opens test closes inner ih =>
    simp only [List.forall_mem_cons, List.forall_mem_append] at all
    obtain ⟨word, -, condition, -, body⟩ := all
    exact .branch ⟨word, first⟩ (written_shaped test condition) (ih body) (by simp)
  | branchElse first opens test closes inner closed second last ihInner ihLast =>
    simp only [List.forall_mem_cons, List.forall_mem_append] at all
    obtain ⟨word, -, condition, -, body, -, other⟩ := all
    refine .branch ⟨word, first⟩ (written_shaped test condition) (ihInner body) ?_
    rintro _ ⟨⟩
    exact ihLast other
  | whileLoop first opens test closes inner ih =>
    simp only [List.forall_mem_cons, List.forall_mem_append] at all
    obtain ⟨word, -, condition, -, body⟩ := all
    exact .whileLoop ⟨word, first⟩ (written_shaped test condition) (ih body)
  | doLoop first inner second opens test closes ends ih =>
    simp only [List.forall_mem_cons, List.forall_mem_append] at all
    obtain ⟨word, body, -, -, condition, -⟩ := all
    exact .doLoop ⟨word, first⟩ (ih body) (written_shaped test condition)
  | forLoop first opens begins test step closes inner ih =>
    simp only [List.forall_mem_cons, List.forall_mem_append] at all
    obtain ⟨word, -, start, condition, action, -, body⟩ := all
    exact .forLoop ⟨word, first⟩ (begins.shaped start) (test.shaped condition)
      (step.shaped action) (ih body)
  | returnNothing first ends =>
    exact .returnBack ⟨(List.forall_mem_cons.mp all).1, first⟩ (by simp)
  | returnValue first inner ends =>
    simp only [List.forall_mem_cons, List.forall_mem_append] at all
    obtain ⟨word, value, -⟩ := all
    refine .returnBack ⟨word, first⟩ ?_
    rintro _ ⟨⟩
    exact written_shaped inner value
  | breakOut first ends => exact .breakOut ⟨(List.forall_mem_cons.mp all).1, first⟩
  | continueLoop first ends => exact .continueLoop ⟨(List.forall_mem_cons.mp all).1, first⟩
  | switch first opens test closes enters choices last leaves ihChoices ihLast =>
    simp only [List.forall_mem_cons, List.forall_mem_append] at all
    obtain ⟨word, -, condition, -, -, cases, fallback, -⟩ := all
    have each := ihChoices cases
    exact .switch ⟨word, first⟩ (written_shaped test condition)
      (fun label body member => (each label body member).1)
      (fun label body member => (each label body member).2) (ihLast fallback)
  | print first head tail ends =>
    simp only [List.forall_mem_cons, List.forall_mem_append] at all
    obtain ⟨word, value, values, -⟩ := all
    refine .print ⟨word, first⟩ (by simp) (List.forall_mem_cons.mpr ⟨?_, ?_⟩)
    · exact printed_shaped head value
    · exact tail.forall_mem values fun _ _ => printed_shaped
  | noItem => exact List.forall_mem_nil _
  | declarations head tail ih =>
    obtain ⟨front, behind⟩ := List.forall_mem_append.mp all
    exact List.forall_mem_append.mpr ⟨(head.declared front).toStmt, ih behind⟩
  | item head other tail ihHead ihTail =>
    obtain ⟨front, behind⟩ := List.forall_mem_append.mp all
    exact List.forall_mem_cons.mpr ⟨ihHead front, ihTail behind⟩
  | noCase =>
    intro label body member
    cases member
  | case first named parts inner tail ihInner ihTail =>
    simp only [List.forall_mem_cons, List.forall_mem_append] at all
    obtain ⟨-, front, -, middle, behind⟩ := all
    intro label body member
    cases member with
    | head => exact ⟨labels_shaped named front, ihInner middle⟩
    | tail _ later => exact ihTail behind label body later
  | noFallback =>
    intro body member
    cases member
  | fallback first parts inner ih =>
    simp only [List.forall_mem_cons] at all
    rintro _ ⟨⟩
    exact ih all.2.2

/-! ## Parsed programs -/

/-- Whether good stays good when a name is replaced by another name where it stands. -/
def KeptByNames (good : Token → Prop) : Prop :=
  ∀ (token : Token) (text : String), token.kind = .name → good token →
    good ⟨.name, some (.name text), token.location⟩

/-- What stands before the entry point, written with good tokens, is shaped. -/
theorem FrontWritten.shaped {tokens includes usings : List Token} {before : List Declaration}
    (writes : FrontWritten tokens includes usings before) (kept : KeptByNames good)
    (all : ∀ token ∈ tokens, good token) :
    (∀ header ∈ includes, header.Suits good (· = .name)) ∧
      (∀ space ∈ usings, space.Suits good (· = .name)) ∧ Declared good before := by
  induction writes with
  | nil => exact ⟨List.forall_mem_nil _, List.forall_mem_nil _, .nil⟩
  | uses first next named ends tail ih =>
    simp only [List.forall_mem_cons] at all
    obtain ⟨-, -, space, -, behind⟩ := all
    obtain ⟨includes, usings, before⟩ := ih behind
    exact ⟨includes, List.forall_mem_cons.mpr ⟨⟨space, named⟩, usings⟩, before⟩
  | includes first next opens named closes tail ih =>
    simp only [List.forall_mem_cons, List.forall_mem_append] at all
    obtain ⟨-, -, -, front, -, behind⟩ := all
    obtain ⟨includes, usings, before⟩ := ih behind
    obtain ⟨kind, -⟩ := named
    have first := (List.forall_mem_cons.mp front).1
    exact ⟨List.forall_mem_cons.mpr ⟨⟨kept _ _ kind first, rfl⟩, includes⟩, usings, before⟩
  | declares head tail ih =>
    obtain ⟨front, behind⟩ := List.forall_mem_append.mp all
    obtain ⟨includes, usings, before⟩ := ih behind
    exact ⟨includes, usings, (head.declared front).append before⟩

/-- An entry point that is written with good tokens is shaped. -/
theorem EntryWritten.shaped {tokens : List Token} {entry : EntryPoint}
    (writes : EntryWritten tokens entry) (all : ∀ token ∈ tokens, good token) :
    entry.Shaped good := by
  obtain ⟨typed, kind, named, opens, closes, enters, inner, leaves⟩ := writes
  simp only [List.forall_mem_cons, List.forall_mem_append] at all
  obtain ⟨-, name, -, -, brace, body, -⟩ := all
  exact ⟨⟨name, kind⟩, named, ⟨brace, enters⟩, inner.shaped body⟩

/-- A settled program that is written with good tokens is shaped. -/
theorem ProgramWritten.shaped {tokens : List Token} {program : Program}
    (writes : ProgramWritten tokens program) (settled : program.Settled)
    (kept : KeptByNames good) (all : ∀ token ∈ tokens, good token) : program.Shaped good := by
  obtain ⟨head, main, tail⟩ := writes
  simp only [List.forall_mem_append] at all
  obtain ⟨front, middle, behind⟩ := all
  obtain ⟨includes, usings, before⟩ := head.shaped kept front
  refine ⟨includes, usings, before, ?_, ?_, settled⟩
  · cases main with
    | none => simp
    | some member =>
      rintro _ ⟨⟩
      exact member.shaped middle
  · exact .flatten (tail.forall_mem behind fun _ _ => DeclarationsWritten.declared)

/-- The tokens in front of a proper feed are none of them the end of the file. -/
theorem Feed.Proper.inner {tokens : List Token} {feed : Feed} (proper : (tokens ++ feed).Proper) :
    ∀ token ∈ tokens, token.kind ≠ .eof := by
  induction tokens with
  | nil => exact List.forall_mem_nil _
  | cons token tokens ih => exact List.forall_mem_cons.mpr ⟨proper.1, ih proper.2⟩

/-- A program that was parsed is shaped, if all tokens of the source but the end of the file are
good. -/
theorem Program.shaped_of_parse {source : String} {tokens : List Token} {program : Program}
    (parsed : parse source = .ok program) (listed : tokenize source = .ok tokens)
    (kept : KeptByNames good) (all : ∀ token ∈ tokens, token.kind ≠ .eof → good token) :
    program.Shaped good := by
  obtain ⟨body, location, read, rfl⟩ := feed_of_tokenize listed
  obtain ⟨whole, _, readWhole, accepted, writes⟩ := parse_ok parsed
  rw [read] at readWhole
  obtain rfl : body = whole := Feed.append_eof_inj (Except.ok.inj readWhole)
  -- The program that is read is the settled one of those that its tokens write.
  obtain ⟨normal, writesNormal, settled⟩ := exists_settled writes
  rw [eq_of_wholeProgram accepted writesNormal settled] at settled
  have inner := (Feed.proper_ofCursor read).inner
  exact writes.shaped settled kept fun token member =>
    all token (List.mem_append_left _ member) (inner token member)

/-- Whether the value of a token is of the sort that its kind asks for: the content of a name or
constant, and the fixed spelling of a reserved word or mark. -/
def Token.Sound (token : Token) : Prop :=
  match token.kind with
  | .integer => ∃ value, token.value = some (.integer value)
  | .float => ∃ value, token.value = some (.float value)
  | .char => ∃ code, token.value = some (.char code)
  | .string => ∃ text, token.value = some (.string text)
  | .name => ∃ text, token.value = some (.name text)
  | kind => token.value = kind.spelling?.map .spelling

/-- A sound token for a name carries a name. -/
theorem Token.exists_name_of_suits {token : Token} (suits : token.Suits Token.Sound (· = .name)) :
    ∃ text, token.name? = some text := by
  obtain ⟨sound, kind⟩ := suits
  rw [Token.Sound, kind] at sound
  obtain ⟨text, value⟩ := sound
  exact ⟨text, by rw [Token.name?, value]⟩

/-- A token is sound where another name stands. -/
theorem Token.Sound.keptByNames : KeptByNames Token.Sound := fun _ text _ _ => ⟨text, rfl⟩

/-- The token of a lexeme is sound. -/
theorem Lexeme.Stands.sound {behind : List Char} {lexeme : Lexeme}
    (stands : lexeme.Stands behind) (place : Location) :
    Token.Sound ⟨lexeme.kind, lexeme.value, place⟩ := by
  cases stands with
  | keyword whole => rfl
  | name whole free => exact ⟨_, rfl⟩
  | mark longest => rfl
  | integer proper ends plain fits => exact ⟨_, rfl⟩
  | float proper ends isFloat bare value => exact ⟨_, rfl⟩
  | suffixed proper isFloat suffix value => exact ⟨_, rfl⟩
  | string spells => exact ⟨_, rfl⟩
  | char spells => exact ⟨_, rfl⟩

/-- The tokens of a chain of gaps and lexemes are sound. -/
theorem Scanned.sound {place : Location} {text : List Char} {tokens : List Token}
    (scanned : Scanned place text tokens) : ∀ token ∈ tokens, token.Sound := by
  induction scanned with
  | eof separates => exact List.forall_mem_singleton.mpr rfl
  | token separates plain some stands rest ih =>
    exact List.forall_mem_cons.mpr ⟨stands.sound _, ih⟩

/-- Every program that is parsed is shaped, and its tokens are sound: tokens are of kinds that
belong where they stand and carry values of the sort of their kinds, initial values are assigned
right behind the declarations of their variables, and without an entry point all declarations
stand before it. -/
theorem Program.sound_of_parse {source : String} {program : Program}
    (parsed : parse source = .ok program) : program.Shaped Token.Sound := by
  obtain ⟨tokens, listed⟩ := tokenize_of_parse parsed
  have sound := (tokenize_eq_ok_iff.mp listed).sound
  exact Program.shaped_of_parse parsed listed Token.Sound.keptByNames fun token member _ =>
    sound token member

end Cpplet

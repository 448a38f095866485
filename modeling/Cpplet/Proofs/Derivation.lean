import Cpplet.Proofs.Writing
import Cpplet.Tree.Program

/-!
# How programs are written

The grammar of programs as a relation between token sequences and trees, apart from any parser
and without a bound on nesting. A production is a constructor: it says which tokens stand where
and which tree the sequence is read as.

Three rules keep the grammar from reading one sequence in two ways. What begins with `const` or a
type, in a block or at the start of a `for` statement, is a declaration list. An `else` belongs to
the nearest `if` that can take it, so no `else` follows a statement that ends with an `if` without
one. And a printed value binds tighter than a shift.
-/

namespace Cpplet

variable {α : Type}

namespace Language

/-- A token of a kind and a sequence behind it. -/
inductive Behind (kind : Kind) (language : Language α) : Language α where
  /-- The token is not part of the value. -/
  | mk {token : Token} {tokens : List Token} {value : α} (same : token.kind = kind)
      (member : language tokens value) : Behind kind language (token :: tokens) value

/-- A sequence that may be missing. -/
inductive Maybe (language : Language α) : Language (Option α) where
  /-- Nothing. -/
  | none : Maybe language [] none
  /-- Something. -/
  | some {tokens : List Token} {value : α} (member : language tokens value) :
      Maybe language tokens (some value)

end Language

/-- Whether a kind begins a declaration list. -/
def Kind.declares (kind : Kind) : Bool := kind = .keyword .constWord || kind.isType

/-- Whether tokens begin like a declaration list. -/
def declaresAhead : List Token → Bool
  | [] => false
  | token :: _ => token.kind.declares

/-- The type of a declaration list. -/
inductive TypeWritten : Language TypeName where
  /-- A type alone. -/
  | plain {type : Token} (kind : type.kind.isType = true) : TypeWritten [type] ⟨type, false⟩
  /-- A type behind `const`. -/
  | const {word type : Token} (first : word.kind = .keyword .constWord)
      (kind : type.kind.isType = true) : TypeWritten [word, type] ⟨type, true⟩

/-- One declared variable. -/
inductive DeclaratorWritten (type : TypeName) : Language (List Declaration) where
  /-- A variable without a value. -/
  | plain {target : Token} (kind : target.kind = .name) :
      DeclaratorWritten type [target] [.declare type target]
  /-- A variable with its initial value, which is assigned behind its declaration. -/
  | initial {target op : Token} {tokens : List Token} {value : Expr} (kind : target.kind = .name)
      (assigns : op.kind = .mark .assign) (inner : written Rank.choice tokens value) :
      DeclaratorWritten type (target :: op :: tokens)
        [.declare type target, .initial target op value]

/-- Variables of one type, separated by commas. -/
inductive DeclarationsWritten : Language (List Declaration) where
  /-- The type, the variables and a semicolon. -/
  | mk {type : TypeName} {front middle behind : List Token} {semicolon : Token}
      {first : List Declaration} {others : List (List Declaration)}
      (typed : TypeWritten front type) (head : DeclaratorWritten type middle first)
      (tail : Language.Star (Language.Behind (.mark .comma) (DeclaratorWritten type)) behind others)
      (ends : semicolon.kind = .mark .semicolon) :
      DeclarationsWritten (front ++ (middle ++ (behind ++ [semicolon]))) (first ++ others.flatten)

/-- An assignment or an expression. -/
inductive ActionWritten : Language Simple where
  /-- A variable, an assignment operator and a value. -/
  | assign {target op : Token} {tokens : List Token} {value : Expr} (kind : target.kind = .name)
      (assigns : op.kind.isAssignment = true) (inner : written Rank.choice tokens value) :
      ActionWritten (target :: op :: tokens) (.assign target op value)
  /-- An expression. -/
  | evaluate {tokens : List Token} {expr : Expr} (inner : written Rank.choice tokens expr) :
      ActionWritten tokens (.evaluate expr)

/-- A statement without statements inside. -/
inductive SimpleWritten : Language Simple where
  /-- A semicolon alone. -/
  | nothing {semicolon : Token} (ends : semicolon.kind = .mark .semicolon) :
      SimpleWritten [semicolon] .nothing
  /-- An action and a semicolon. -/
  | action {tokens : List Token} {semicolon : Token} {action : Simple}
      (inner : ActionWritten tokens action) (ends : semicolon.kind = .mark .semicolon) :
      SimpleWritten (tokens ++ [semicolon]) action

/-- What a `for` statement begins with. -/
inductive ForStartWritten : Language ForStart where
  /-- Declarations. -/
  | declarations {tokens : List Token} {steps : List Declaration}
      (inner : DeclarationsWritten tokens steps) : ForStartWritten tokens (.declarations steps)
  /-- A simple statement that does not begin like declarations. -/
  | simple {tokens : List Token} {statement : Simple} (inner : SimpleWritten tokens statement)
      (other : declaresAhead tokens = false) : ForStartWritten tokens (.simple statement)

/-- What a `for` statement does after each round. -/
inductive ForActionWritten : Language Simple where
  /-- Nothing. -/
  | nothing : ForActionWritten [] .nothing
  /-- An action. -/
  | action {tokens : List Token} {action : Simple} (inner : ActionWritten tokens action) :
      ForActionWritten tokens action

/-- What a case is labelled with: a name or a constant. -/
def labels : Language Expr := fun tokens expr =>
  ∃ token, tokens = [token] ∧ Writes Rank.primary [token] expr 0

/-- A printed value behind its shift operator. -/
def printed : Language Expr := Language.Behind (.mark .shiftLeft) (written Rank.additive)

/-- Whether a statement ends with an `if` that has no `else` yet. -/
def Stmt.endsOpen : Stmt → Bool
  | .branch _ _ _ none => true
  | .branch _ _ _ (some other) => other.endsOpen
  | .whileLoop _ _ body => body.endsOpen
  | .forLoop _ _ _ _ body => body.endsOpen
  | _ => false

/-- What is made of statements, and the sequences of it. -/
inductive Phrase where
  /-- One statement. -/
  | statement (tree : Stmt)
  /-- Declarations and statements. -/
  | items (trees : List Stmt)
  /-- The cases of a choice. -/
  | cases (trees : List Case)
  /-- The statements for every other value. -/
  | fallback (trees : Option (List Stmt))

/-- Tokens that write a phrase. -/
inductive PhraseWritten : Phrase → List Token → Prop where
  /-- A statement without statements inside. -/
  | simple {tokens : List Token} {statement : Simple} (inner : SimpleWritten tokens statement) :
      PhraseWritten (.statement (.simple statement)) tokens
  /-- Declarations and statements between braces. -/
  | block {brace closing : Token} {tokens : List Token} {body : List Stmt}
      (opens : brace.kind = .mark .leftBrace) (inner : PhraseWritten (.items body) tokens)
      (closes : closing.kind = .mark .rightBrace) :
      PhraseWritten (.statement (.block brace body)) (brace :: (tokens ++ [closing]))
  /-- An `if` statement without an `else`. -/
  | branch {word left right : Token} {front behind : List Token} {condition : Expr} {body : Stmt}
      (first : word.kind = .keyword .ifWord) (opens : left.kind = .mark .leftParen)
      (test : written Rank.choice front condition) (closes : right.kind = .mark .rightParen)
      (inner : PhraseWritten (.statement body) behind) :
      PhraseWritten (.statement (.branch word condition body none))
        (word :: left :: (front ++ right :: behind))
  /-- An `if` statement with an `else`, which no nearer `if` can take. -/
  | branchElse {word left right other : Token} {front middle behind : List Token}
      {condition : Expr} {body otherwise : Stmt} (first : word.kind = .keyword .ifWord)
      (opens : left.kind = .mark .leftParen) (test : written Rank.choice front condition)
      (closes : right.kind = .mark .rightParen) (inner : PhraseWritten (.statement body) middle)
      (closed : body.endsOpen = false) (second : other.kind = .keyword .elseWord)
      (last : PhraseWritten (.statement otherwise) behind) :
      PhraseWritten (.statement (.branch word condition body (some otherwise)))
        (word :: left :: (front ++ right :: (middle ++ other :: behind)))
  /-- A loop with its test first. -/
  | whileLoop {word left right : Token} {front behind : List Token} {condition : Expr}
      {body : Stmt} (first : word.kind = .keyword .whileWord)
      (opens : left.kind = .mark .leftParen) (test : written Rank.choice front condition)
      (closes : right.kind = .mark .rightParen) (inner : PhraseWritten (.statement body) behind) :
      PhraseWritten (.statement (.whileLoop word condition body))
        (word :: left :: (front ++ right :: behind))
  /-- A loop with its test last. -/
  | doLoop {word again left right semicolon : Token} {front behind : List Token} {body : Stmt}
      {condition : Expr} (first : word.kind = .keyword .doWord)
      (inner : PhraseWritten (.statement body) front) (second : again.kind = .keyword .whileWord)
      (opens : left.kind = .mark .leftParen) (test : written Rank.choice behind condition)
      (closes : right.kind = .mark .rightParen) (ends : semicolon.kind = .mark .semicolon) :
      PhraseWritten (.statement (.doLoop word body condition))
        (word :: (front ++ again :: left :: (behind ++ [right, semicolon])))
  /-- A loop with a start, a test and an action. -/
  | forLoop {word left right : Token} {starts tests acts behind : List Token} {start : ForStart}
      {condition action : Simple} {body : Stmt} (first : word.kind = .keyword .forWord)
      (opens : left.kind = .mark .leftParen) (begins : ForStartWritten starts start)
      (test : SimpleWritten tests condition) (step : ForActionWritten acts action)
      (closes : right.kind = .mark .rightParen) (inner : PhraseWritten (.statement body) behind) :
      PhraseWritten (.statement (.forLoop word start condition action body))
        (word :: left :: (starts ++ (tests ++ (acts ++ right :: behind))))
  /-- A `return` without a value. -/
  | returnNothing {word semicolon : Token} (first : word.kind = .keyword .returnWord)
      (ends : semicolon.kind = .mark .semicolon) :
      PhraseWritten (.statement (.returnBack word none)) [word, semicolon]
  /-- A `return` with a value. -/
  | returnValue {word semicolon : Token} {tokens : List Token} {value : Expr}
      (first : word.kind = .keyword .returnWord) (inner : written Rank.choice tokens value)
      (ends : semicolon.kind = .mark .semicolon) :
      PhraseWritten (.statement (.returnBack word (some value))) (word :: (tokens ++ [semicolon]))
  /-- A `break`. -/
  | breakOut {word semicolon : Token} (first : word.kind = .keyword .breakWord)
      (ends : semicolon.kind = .mark .semicolon) :
      PhraseWritten (.statement (.breakOut word)) [word, semicolon]
  /-- A `continue`. -/
  | continueLoop {word semicolon : Token} (first : word.kind = .keyword .continueWord)
      (ends : semicolon.kind = .mark .semicolon) :
      PhraseWritten (.statement (.continueLoop word)) [word, semicolon]
  /-- A choice between cases. -/
  | switch {word left right brace closing : Token} {front middle behind : List Token}
      {condition : Expr} {cases : List Case} {fallback : Option (List Stmt)}
      (first : word.kind = .keyword .switchWord) (opens : left.kind = .mark .leftParen)
      (test : written Rank.choice front condition) (closes : right.kind = .mark .rightParen)
      (enters : brace.kind = .mark .leftBrace) (choices : PhraseWritten (.cases cases) middle)
      (last : PhraseWritten (.fallback fallback) behind)
      (leaves : closing.kind = .mark .rightBrace) :
      PhraseWritten (.statement (.switch word condition cases fallback))
        (word :: left :: (front ++ right :: brace :: (middle ++ (behind ++ [closing]))))
  /-- Printed values. -/
  | print {word semicolon : Token} {front behind : List Token} {value : Expr}
      {values : List Expr} (first : word.kind = .keyword .coutWord) (head : printed front value)
      (tail : Language.Star printed behind values) (ends : semicolon.kind = .mark .semicolon) :
      PhraseWritten (.statement (.print word (value :: values)))
        (word :: (front ++ (behind ++ [semicolon])))
  /-- No items. -/
  | noItem : PhraseWritten (.items []) []
  /-- Declarations in front of other items. -/
  | declarations {front behind : List Token} {steps : List Declaration} {others : List Stmt}
      (head : DeclarationsWritten front steps) (tail : PhraseWritten (.items others) behind) :
      PhraseWritten (.items (steps.map Declaration.toStmt ++ others)) (front ++ behind)
  /-- A statement that does not begin like declarations, in front of other items. -/
  | item {front behind : List Token} {tree : Stmt} {others : List Stmt}
      (head : PhraseWritten (.statement tree) front) (other : declaresAhead front = false)
      (tail : PhraseWritten (.items others) behind) :
      PhraseWritten (.items (tree :: others)) (front ++ behind)
  /-- No cases. -/
  | noCase : PhraseWritten (.cases []) []
  /-- A label and its items in front of other cases. -/
  | case {word colon : Token} {front middle behind : List Token} {label : Expr}
      {body : List Stmt} {others : List Case} (first : word.kind = .keyword .caseWord)
      (named : labels front label) (parts : colon.kind = .mark .colon)
      (inner : PhraseWritten (.items body) middle) (tail : PhraseWritten (.cases others) behind) :
      PhraseWritten (.cases (.mk label body :: others))
        (word :: (front ++ colon :: (middle ++ behind)))
  /-- Nothing for other values. -/
  | noFallback : PhraseWritten (.fallback none) []
  /-- The items for other values. -/
  | fallback {word colon : Token} {tokens : List Token} {body : List Stmt}
      (first : word.kind = .keyword .defaultWord) (parts : colon.kind = .mark .colon)
      (inner : PhraseWritten (.items body) tokens) :
      PhraseWritten (.fallback (some body)) (word :: colon :: tokens)

/-- The statements. -/
def statements : Language Stmt := fun tokens tree => PhraseWritten (.statement tree) tokens

/-- The declarations and statements of a block. -/
def itemLists : Language (List Stmt) := fun tokens trees => PhraseWritten (.items trees) tokens

/-- The name of a header, whose parts are joined to one name where the first of them stands. -/
inductive HeaderWritten : Language Token where
  /-- Names with points between them. -/
  | mk {first : Token} {behind : List Token} {others : List Token} (kind : first.kind = .name)
      (tail : Language.Star (Language.Behind (.mark .dot) (Language.one .name)) behind others) :
      HeaderWritten (first :: behind)
        ⟨.name,
          some (.name (".".intercalate ((first :: others).map fun part => part.name?.getD ""))),
          first.location⟩

/-- What stands before the entry point: the included headers, the used namespaces and the
declarations, each in their order. -/
inductive FrontWritten : List Token → List Token → List Token → List Declaration → Prop where
  /-- Nothing. -/
  | nil : FrontWritten [] [] [] []
  /-- A used namespace in front of the rest. -/
  | uses {word second space semicolon : Token} {behind includes usings : List Token}
      {before : List Declaration} (first : word.kind = .keyword .usingWord)
      (next : second.kind = .keyword .namespaceWord) (named : space.kind = .name)
      (ends : semicolon.kind = .mark .semicolon)
      (tail : FrontWritten behind includes usings before) :
      FrontWritten (word :: second :: space :: semicolon :: behind) includes (space :: usings)
        before
  /-- An included header in front of the rest. -/
  | includes {hash word left right header : Token} {front behind includes usings : List Token}
      {before : List Declaration} (first : hash.kind = .mark .hash)
      (next : word.kind = .keyword .includeWord) (opens : left.kind = .mark .less)
      (named : HeaderWritten front header) (closes : right.kind = .mark .greater)
      (tail : FrontWritten behind includes usings before) :
      FrontWritten (hash :: word :: left :: (front ++ right :: behind)) (header :: includes) usings
        before
  /-- Declarations in front of the rest. -/
  | declares {front behind includes usings : List Token} {steps before : List Declaration}
      (head : DeclarationsWritten front steps) (tail : FrontWritten behind includes usings before) :
      FrontWritten (front ++ behind) includes usings (steps ++ before)

/-- The entry point. -/
inductive EntryWritten : Language EntryPoint where
  /-- The tokens `int main ( )` and a block. -/
  | mk {type name left right brace closing : Token} {tokens : List Token} {body : List Stmt}
      (typed : type.kind = .keyword .intWord) (kind : name.kind = .name)
      (named : name.name? = some "main") (opens : left.kind = .mark .leftParen)
      (closes : right.kind = .mark .rightParen) (enters : brace.kind = .mark .leftBrace)
      (inner : itemLists tokens body) (leaves : closing.kind = .mark .rightBrace) :
      EntryWritten (type :: name :: left :: right :: brace :: (tokens ++ [closing]))
        ⟨name, brace, body⟩

/-- A whole program. -/
inductive ProgramWritten : Language Program where
  /-- What stands before the entry point, the entry point, and declarations behind it. -/
  | mk {front middle behind includes usings : List Token} {before : List Declaration}
      {entry : Option EntryPoint} {after : List (List Declaration)}
      (head : FrontWritten front includes usings before)
      (main : Language.Maybe EntryWritten middle entry)
      (tail : Language.Star DeclarationsWritten behind after) :
      ProgramWritten (front ++ (middle ++ behind)) ⟨includes, usings, before, entry, after.flatten⟩

/-- Whether a program without an entry point has all its declarations before it. Only then is it
clear on which side they stand. -/
def Program.Settled (program : Program) : Prop := program.entry = none → program.after = []

end Cpplet

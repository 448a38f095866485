import Cpplet.Proofs.Forests
import Cpplet.Proofs.Shapes

/-!
# Reading a program off its outline

An outline shows every token of a program by its text. So it cannot tell programs apart that differ
only in what their tokens are read from, such as `97` and `'a'`, but it tells everything else: a
node is labelled with what it is, and what stands below it is found by its position. `exprOf`,
`stmtOf` and `programOf` read an outline back. They do not look at places, and from the outline of
a parsed program they read the program itself with every token replaced by its text
(`programOf_outline`). Since the rows of an outline tell the outline, they tell the program too
(`outline_tells_program`).
-/

namespace Cpplet

/-! ## Replacing tokens -/

/-- An expression with every token replaced. -/
def Expr.mapTokens (f : Token → Token) : Expr → Expr
  | .name token => .name (f token)
  | .number token => .number (f token)
  | .string token => .string (f token)
  | .truth token => .truth (f token)
  | .unary op operand => .unary (f op) (operand.mapTokens f)
  | .cast type operand => .cast (f type) (operand.mapTokens f)
  | .preStep op operand => .preStep (f op) (operand.mapTokens f)
  | .postStep operand op => .postStep (operand.mapTokens f) (f op)
  | .binary left op right => .binary (left.mapTokens f) (f op) (right.mapTokens f)
  | .conditional condition whenTrue whenFalse =>
    .conditional (condition.mapTokens f) (whenTrue.mapTokens f) (whenFalse.mapTokens f)

/-- A declared type with its token replaced. -/
def TypeName.mapTokens (f : Token → Token) (type : TypeName) : TypeName :=
  { type with token := f type.token }

/-- A declaration step with every token replaced. -/
def Declaration.mapTokens (f : Token → Token) : Declaration → Declaration
  | .declare type name => .declare (type.mapTokens f) (f name)
  | .initial target op value => .initial (f target) (f op) (value.mapTokens f)

/-- A simple statement with every token replaced. -/
def Simple.mapTokens (f : Token → Token) : Simple → Simple
  | .nothing => .nothing
  | .assign target op value => .assign (f target) (f op) (value.mapTokens f)
  | .evaluate expr => .evaluate (expr.mapTokens f)

/-- The beginning of a `for` statement with every token replaced. -/
def ForStart.mapTokens (f : Token → Token) : ForStart → ForStart
  | .declarations steps => .declarations (steps.map (Declaration.mapTokens f))
  | .simple statement => .simple (statement.mapTokens f)

mutual

/-- A statement with every token replaced. -/
def Stmt.mapTokens (f : Token → Token) : Stmt → Stmt
  | .block brace items => .block (f brace) (Stmt.mapTokensAll f items)
  | .declare type name => .declare (type.mapTokens f) (f name)
  | .simple statement => .simple (statement.mapTokens f)
  | .print word items => .print (f word) (items.map (Expr.mapTokens f))
  | .branch word condition body otherwise =>
    .branch (f word) (condition.mapTokens f) (body.mapTokens f) (Stmt.mapTokensElse f otherwise)
  | .whileLoop word condition body =>
    .whileLoop (f word) (condition.mapTokens f) (body.mapTokens f)
  | .doLoop word body condition => .doLoop (f word) (body.mapTokens f) (condition.mapTokens f)
  | .forLoop word start condition action body =>
    .forLoop (f word) (start.mapTokens f) (condition.mapTokens f) (action.mapTokens f)
      (body.mapTokens f)
  | .breakOut word => .breakOut (f word)
  | .continueLoop word => .continueLoop (f word)
  | .returnBack word value => .returnBack (f word) (value.map (Expr.mapTokens f))
  | .switch word condition cases fallback =>
    .switch (f word) (condition.mapTokens f) (Case.mapTokensAll f cases)
      (Stmt.mapTokensFallback f fallback)

/-- Statements with every token replaced. -/
def Stmt.mapTokensAll (f : Token → Token) : List Stmt → List Stmt
  | [] => []
  | statement :: others => statement.mapTokens f :: Stmt.mapTokensAll f others

/-- The second statement of a choice with every token replaced. -/
def Stmt.mapTokensElse (f : Token → Token) : Option Stmt → Option Stmt
  | none => none
  | some statement => some (statement.mapTokens f)

/-- A case with every token replaced. -/
def Case.mapTokens (f : Token → Token) : Case → Case
  | .mk label body => .mk (label.mapTokens f) (Stmt.mapTokensAll f body)

/-- Cases with every token replaced. -/
def Case.mapTokensAll (f : Token → Token) : List Case → List Case
  | [] => []
  | first :: others => first.mapTokens f :: Case.mapTokensAll f others

/-- The default of a choice between cases with every token replaced. -/
def Stmt.mapTokensFallback (f : Token → Token) : Option (List Stmt) → Option (List Stmt)
  | none => none
  | some body => some (Stmt.mapTokensAll f body)

end

/-- An entry point with every token replaced. -/
def EntryPoint.mapTokens (f : Token → Token) (entry : EntryPoint) : EntryPoint :=
  ⟨f entry.name, f entry.brace, entry.body.map (Stmt.mapTokens f)⟩

/-- A program with every token replaced. -/
def Program.mapTokens (f : Token → Token) (program : Program) : Program where
  includes := program.includes.map f
  usings := program.usings.map f
  before := program.before.map (Declaration.mapTokens f)
  entry := program.entry.map (EntryPoint.mapTokens f)
  after := program.after.map (Declaration.mapTokens f)

namespace Token

/-- A token that is nothing but a text. -/
def ofText (text : String) : Token := ⟨.name, some (.name text), .start⟩

/-- A token of which only the text is left. -/
def bare (token : Token) : Token := .ofText token.text

/-- What is left of the token of a reserved word or mark is its spelling. -/
theorem bare_of_spelling {token : Token} {kind : Kind} {spelling : String}
    (suits : token.Suits Sound (· = kind)) (fixed : kind.spelling? = some spelling) :
    token.bare = .ofText spelling := by
  obtain ⟨sound, same⟩ := suits
  have value : token.value = some (.spelling spelling) := by
    rw [Sound, same] at sound
    cases kind with
    | keyword word =>
      cases fixed
      exact sound
    | mark symbol =>
      cases fixed
      exact sound
    | _ => cases fixed
  rw [bare, text, value]
  rfl

/-- What is left of the token of a name is the name. -/
theorem bare_of_name {token : Token} (suits : token.Suits Sound (· = .name)) :
    token.bare = .ofText (token.name?.getD "") := by
  obtain ⟨sound, kind⟩ := suits
  rw [Sound, kind] at sound
  obtain ⟨name, value⟩ := sound
  rw [bare, text, name?, value]
  rfl

end Token

namespace Outline

/-! ## Labels -/

/-- The first word of a label, and what follows it behind a space. -/
def heading (label : String) : String × String :=
  (String.ofList (label.toList.takeWhile (· ≠ ' ')),
    String.ofList ((label.toList.dropWhile (· ≠ ' ')).drop 1))

/-- A word, a space and a text are told apart. -/
theorem heading_append {front word : String} (spaced : front.toList = word.toList ++ [' '])
    (solid : ' ' ∉ word.toList) (text : String) :
    heading (front ++ text) = (word, text) := by
  have all : ∀ c ∈ word.toList, decide (c ≠ ' ') = true := fun c member =>
    decide_eq_true fun same => solid (same ▸ member)
  have split : (front ++ text).toList = word.toList ++ ' ' :: text.toList := by
    rw [String.toList_append, spaced, List.append_assoc]
    rfl
  have first : (front ++ text).toList.takeWhile (· ≠ ' ') = word.toList := by
    rw [split, List.takeWhile_append_of_pos all]
    simp
  have rest : (front ++ text).toList.dropWhile (· ≠ ' ') = ' ' :: text.toList := by
    rw [split, List.dropWhile_append_of_pos all]
    simp
  rw [heading, first, rest, List.drop_one, List.tail_cons, String.ofList_toList,
    String.ofList_toList]

/-- The word that says what an outline shows. -/
def word : Outline → String
  | .node label _ _ => (heading label).1

/-- The nodes below the root of an outline. -/
def children : Outline → List Outline
  | .node _ _ children => children

/-- The token that stands behind the word. -/
def tokenOf : Outline → Token
  | .node label _ _ => .ofText (heading label).2

/-! ## Expressions -/

/-- The leaf that a word and a text show. -/
def leafOf (word text : String) : Expr :=
  if word = "Num" then .number (.ofText text)
  else if word = "String" then .string (.ofText text)
  else if word = "Bool" then .truth (.ofText text)
  else .name (.ofText text)

/-- The expression with one operand that a word and a text show. -/
def operationOf (word text : String) (operand : Expr) : Expr :=
  if word = "UnaryOp" then .unary (.ofText text) operand
  else if word = "Cast" then .cast (.ofText text) operand
  else if word = "PrefixOp" then .preStep (.ofText text) operand
  else .postStep operand (.ofText text)

/-- The expression that an outline shows. Its sort is told by how many nodes stand below and, where
there is at most one, by the word. -/
def exprOf : Outline → Expr
  | .node label _ [] => leafOf (heading label).1 (heading label).2
  | .node label _ [operand] => operationOf (heading label).1 (heading label).2 (exprOf operand)
  | .node label _ [left, right] => .binary (exprOf left) (.ofText (heading label).2) (exprOf right)
  | .node _ _ [.node _ _ [condition], .node _ _ [whenTrue], .node _ _ [whenFalse]] =>
    .conditional (exprOf condition) (exprOf whenTrue) (exprOf whenFalse)
  | .node label _ _ => .name (.ofText label)

/-- The words that show expressions. -/
def expressionWords : List String :=
  ["Variable", "Num", "String", "Bool", "UnaryOp", "Cast", "PrefixOp", "PostfixOp", "BinOp",
    "TernaryOp"]

/-- The token of a variable is read off its outline. -/
theorem tokenOf_outline (token : Token) : tokenOf token.outline.unplaced = token.bare := by
  have read := @heading_append "Variable " "Variable" (by decide) (by decide) token.text
  rw [Token.outline, unplaced_node, tokenOf, read]
  rfl

/-- An expression is read off its outline, and the word of the outline shows an expression. -/
theorem exprOf_ofExpr (expr : Expr) :
    exprOf (ofExpr expr).unplaced = expr.mapTokens Token.bare ∧
      (ofExpr expr).unplaced.word ∈ expressionWords := by
  induction expr with
  | name token =>
    have read := @heading_append "Variable " "Variable" (by decide) (by decide) token.text
    rw [ofExpr, Token.outline, unplaced_node, List.map_nil, exprOf, word, read]
    exact ⟨rfl, by simp [expressionWords]⟩
  | number token =>
    have read := @heading_append "Num " "Num" (by decide) (by decide) token.text
    rw [ofExpr, unplaced_node, List.map_nil, exprOf, word, read]
    exact ⟨rfl, by simp [expressionWords]⟩
  | string token =>
    have read := @heading_append "String " "String" (by decide) (by decide) token.text
    rw [ofExpr, unplaced_node, List.map_nil, exprOf, word, read]
    exact ⟨rfl, by simp [expressionWords]⟩
  | truth token =>
    have read := @heading_append "Bool " "Bool" (by decide) (by decide) token.text
    rw [ofExpr, unplaced_node, List.map_nil, exprOf, word, read]
    exact ⟨rfl, by simp [expressionWords]⟩
  | unary op operand ih =>
    have read := @heading_append "UnaryOp " "UnaryOp" (by decide) (by decide) op.text
    rw [ofExpr, unplaced_node, List.map_singleton, exprOf, ih.1, word, read]
    exact ⟨rfl, by simp [expressionWords]⟩
  | cast type operand ih =>
    have read := @heading_append "Cast " "Cast" (by decide) (by decide) type.text
    rw [ofExpr, unplaced_node, List.map_singleton, exprOf, ih.1, word, read]
    exact ⟨rfl, by simp [expressionWords]⟩
  | preStep op operand ih =>
    have read := @heading_append "PrefixOp " "PrefixOp" (by decide) (by decide) op.text
    rw [ofExpr, unplaced_node, List.map_singleton, exprOf, ih.1, word, read]
    exact ⟨rfl, by simp [expressionWords]⟩
  | postStep operand op ih =>
    have read := @heading_append "PostfixOp " "PostfixOp" (by decide) (by decide) op.text
    rw [ofExpr, unplaced_node, List.map_singleton, exprOf, ih.1, word, read]
    exact ⟨rfl, by simp [expressionWords]⟩
  | binary left op right ihLeft ihRight =>
    have read := @heading_append "BinOp " "BinOp" (by decide) (by decide) op.text
    rw [ofExpr, unplaced_node, List.map_cons, List.map_singleton, exprOf, ihLeft.1, ihRight.1,
      word, read]
    exact ⟨rfl, by simp [expressionWords]⟩
  | conditional condition whenTrue whenFalse ihCondition ihTrue ihFalse =>
    simp only [ofExpr, slot, unplaced_node, List.map_cons, List.map_nil, exprOf, ihCondition.1,
      ihTrue.1, ihFalse.1, Expr.mapTokens, word]
    exact ⟨trivial, by decide⟩

/-! ## Declarations and simple statements -/

/-- The type that a text names. -/
def typeNamed (text : String) : TypeName :=
  let (first, rest) := heading text
  if first = "const" then ⟨.ofText rest, true⟩ else ⟨.ofText text, false⟩

/-- The type that an outline shows. -/
def typeOf : Outline → TypeName
  | .node label _ _ => typeNamed (heading label).2

/-- A declared type is read off its outline. -/
theorem typeOf_outline {type : TypeName} (shaped : type.Shaped Token.Sound) :
    typeOf type.outline.unplaced = type.mapTokens Token.bare := by
  obtain ⟨token, isConst⟩ := type
  obtain ⟨word, kind, isType⟩ : ∃ word : Keyword, token.kind = .keyword word ∧
      word.isType = true := by
    have named := shaped.2
    cases kind : token.kind with
    | keyword word => exact ⟨word, rfl, by rw [kind] at named; exact named⟩
    | _ => rw [kind] at named; cases named
  have bare : token.bare = .ofText word.spelling := Token.bare_of_spelling ⟨shaped.1, kind⟩ rfl
  have text : token.text = word.spelling := by
    have texts := congrArg Token.name? bare
    exact Option.some.inj texts
  have read := @heading_append "Type " "Type" (by decide) (by decide)
  rw [TypeName.mapTokens, bare]
  cases isConst with
  | true =>
    have const := @heading_append "const " "const" (by decide) (by decide) word.spelling
    show typeNamed (heading ("Type " ++ "const " ++ token.text)).2 = _
    rw [String.append_assoc, read, text, typeNamed, const]
    rfl
  | false =>
    have plain : (heading word.spelling).1 ≠ "const" := by
      cases word with
      | intWord | floatWord | doubleWord | charWord | boolWord => decide
      | _ => cases isType
    show typeNamed (heading ("Type " ++ "" ++ token.text)).2 = _
    rw [String.append_assoc, read, String.empty_append, text, typeNamed]
    exact if_neg plain

/-- The declaration step that an outline shows, if it shows one. -/
def declarationOf? : Outline → Option Declaration
  | .node label _ [target, second] =>
    if (heading label).1 = "VarDecl" then some (.declare (typeOf second) (tokenOf target))
    else if (heading label).1 = "Assign" then
      some (.initial (tokenOf target) (.ofText (heading label).2) (exprOf second))
    else none
  | _ => none

/-- A declared variable is read off its outline. -/
theorem declarationOf?_ofDeclared {type : TypeName} (name : Token)
    (typed : type.Shaped Token.Sound) :
    declarationOf? (ofDeclared type name).unplaced =
      some (.declare (type.mapTokens Token.bare) name.bare) := by
  simp only [ofDeclared, unplaced_node, List.map_cons, List.map_nil, declarationOf?,
    typeOf_outline typed, tokenOf_outline]
  rfl

/-- An assignment is read off its outline, as the step that gives a variable its value. -/
theorem declarationOf?_ofAssignment (target op : Token) (value : Expr) :
    declarationOf? (ofAssignment target op value).unplaced =
        some (.initial target.bare op.bare (value.mapTokens Token.bare)) ∧
      (ofAssignment target op value).unplaced.word = "Assign" := by
  have read := @heading_append "Assign " "Assign" (by decide) (by decide) op.text
  simp only [ofAssignment, unplaced_node, List.map_cons, List.map_nil, declarationOf?, read,
    tokenOf_outline, exprOf_ofExpr, word]
  exact ⟨rfl, trivial⟩

/-- Declaration steps are read off their outlines. -/
theorem declarationOf?_ofDeclaration {steps : List Declaration}
    (declared : Declared Token.Sound steps) :
    ∀ step ∈ steps,
      declarationOf? (ofDeclaration step).unplaced = some (step.mapTokens Token.bare) := by
  induction declared with
  | nil => exact List.forall_mem_nil _
  | plain typed named tail ih =>
    exact List.forall_mem_cons.mpr ⟨declarationOf?_ofDeclared _ typed, ih⟩
  | @initial type target op value others typed named equals inner tail ih =>
    have assigns := (declarationOf?_ofAssignment target op value).1
    refine List.forall_mem_cons.mpr ⟨declarationOf?_ofDeclared _ typed, ?_⟩
    exact List.forall_mem_cons.mpr ⟨assigns, ih⟩

/-- The simple statement that an outline shows. -/
def simpleOf (outline : Outline) : Simple :=
  if outline.word = "NoOp" then .nothing
  else if outline.word = "Assign" then
    match declarationOf? outline with
    | some (.initial target op value) => .assign target op value
    | _ => .nothing
  else .evaluate (exprOf outline)

/-- The words that show simple statements. -/
def simpleWords : List String := "NoOp" :: "Assign" :: expressionWords

/-- A simple statement is read off its outline, and the word of the outline shows a simple
statement. -/
theorem simpleOf_ofSimple (statement : Simple) :
    simpleOf (ofSimple statement).unplaced = statement.mapTokens Token.bare ∧
      (ofSimple statement).unplaced.word ∈ simpleWords := by
  cases statement with
  | nothing =>
    have read : (ofSimple .nothing).unplaced.word = "NoOp" := by decide
    rw [simpleOf, if_pos read, read]
    exact ⟨rfl, by decide⟩
  | assign target op value =>
    obtain ⟨assigns, read⟩ := declarationOf?_ofAssignment target op value
    rw [ofSimple, simpleOf, read, assigns]
    exact ⟨rfl, by decide⟩
  | evaluate expr =>
    obtain ⟨inner, among⟩ := exprOf_ofExpr expr
    have noNothing : "NoOp" ∉ expressionWords := by decide
    have noAssignment : "Assign" ∉ expressionWords := by decide
    rw [ofSimple, simpleOf, if_neg (ne_of_mem_of_not_mem among noNothing),
      if_neg (ne_of_mem_of_not_mem among noAssignment), inner]
    exact ⟨rfl, List.mem_cons_of_mem _ (List.mem_cons_of_mem _ among)⟩

/-- What an outline shows as the beginning of a `for` statement. -/
def forStartOf (outline : Outline) : ForStart :=
  if outline.word = "Compound" then .declarations (outline.children.filterMap declarationOf?)
  else .simple (simpleOf outline)

/-- Declarations are read off their outlines, whatever stands there besides. -/
theorem filterMap_declarationOf? {steps : List Declaration}
    (declared : Declared Token.Sound steps) :
    (steps.map fun step => (ofDeclaration step).unplaced).filterMap declarationOf? =
      steps.map (Declaration.mapTokens Token.bare) := by
  rw [List.filterMap_map, ← List.filterMap_eq_map]
  exact List.filterMap_congr (declarationOf?_ofDeclaration declared)

/-- The beginning of a `for` statement is read off its outline. -/
theorem forStartOf_ofForStart {start : ForStart} (shaped : start.Shaped Token.Sound) :
    forStartOf (ofForStart start).unplaced = start.mapTokens Token.bare := by
  cases shaped with
  | declarations declared =>
    have read : heading "Compound" = ("Compound", "") := by decide
    rw [ofForStart, unplaced_node, forStartOf, word, read, if_pos rfl, children, List.map_map]
    exact congrArg ForStart.declarations (filterMap_declarationOf? declared)
  | @simple statement inner =>
    obtain ⟨read, among⟩ := simpleOf_ofSimple statement
    have noBlock : "Compound" ∉ simpleWords := by decide
    rw [ofForStart, forStartOf, if_neg (ne_of_mem_of_not_mem among noBlock), read]
    rfl

/-! ## Statements -/

/-- The statement without statements inside that an outline shows. -/
def flatOf (outline : Outline) : Stmt :=
  if outline.word = "VarDecl" then
    match declarationOf? outline with
    | some (.declare type name) => .declare type name
    | _ => .simple .nothing
  else if outline.word = "Print" then
    .print (.ofText Keyword.coutWord.spelling) (outline.children.map exprOf)
  else if outline.word = "Break" then .breakOut (.ofText Keyword.breakWord.spelling)
  else if outline.word = "Continue" then .continueLoop (.ofText Keyword.continueWord.spelling)
  else if outline.word = "Return" then
    .returnBack (.ofText Keyword.returnWord.spelling) (outline.children.head?.map exprOf)
  else .simple (simpleOf outline)

/-- What stands below a label row. -/
def content : Outline → Outline
  | .node _ _ [inner] => inner
  | outline => outline

/-- The expression below the first of some label rows. -/
def conditionOf : List Outline → Expr
  | first :: _ => exprOf first.content
  | [] => .name (.ofText "")

/-- The statement with other statements in its parts that a word shows. Each part is given as an
outline and as the statement that this shows. -/
def nestingOf (word : String) (parts : List Outline) (inner : List Stmt) : Stmt :=
  if word = "If" then
    match parts, inner with
    | condition :: _, _ :: body :: others =>
      .branch (.ofText Keyword.ifWord.spelling) (exprOf condition) body others.head?
    | _, _ => .simple .nothing
  else if word = "While" then
    match parts, inner with
    | condition :: _, [_, body] =>
      .whileLoop (.ofText Keyword.whileWord.spelling) (exprOf condition) body
    | _, _ => .simple .nothing
  else if word = "DoWhile" then
    match parts, inner with
    | [_, condition], body :: _ =>
      .doLoop (.ofText Keyword.doWord.spelling) body (exprOf condition)
    | _, _ => .simple .nothing
  else
    match parts, inner with
    | start :: condition :: action :: _, [_, _, _, body] =>
      .forLoop (.ofText Keyword.forWord.spelling) (forStartOf start) (simpleOf condition)
        (simpleOf action) body
    | _, _ => .simple .nothing

/-- The words that show statements with other statements in their parts. -/
def nestingWords : List String := ["If", "While", "DoWhile", "For"]

mutual

/-- The statement that an outline shows. -/
def stmtOf : Outline → Stmt
  | .node label place children =>
    let word := (heading label).1
    if word = "Compound" then .block (.ofText Mark.leftBrace.spelling) (stmtsOf children)
    else if word = "Switch" then
      .switch (.ofText Keyword.switchWord.spelling) (conditionOf children) (casesOf children)
        (fallbackOf children)
    else if word ∈ nestingWords then
      nestingOf word (children.map content) (partsOf children)
    else flatOf (.node label place children)

/-- The statements that outlines show. -/
def stmtsOf : List Outline → List Stmt
  | [] => []
  | outline :: others => stmtOf outline :: stmtsOf others

/-- The statements below label rows. -/
def partsOf : List Outline → List Stmt
  | .node _ _ [inner] :: others => stmtOf inner :: partsOf others
  | _ => []

/-- The cases that outlines show. -/
def casesOf : List Outline → List Case
  | .node _ _ [label, .node _ _ body] :: others =>
    .mk (exprOf label) (stmtsOf body) :: casesOf others
  | _ :: others => casesOf others
  | [] => []

/-- The default that outlines show, where they show one. -/
def fallbackOf : List Outline → Option (List Stmt)
  | .node label _ [.node _ _ body] :: others =>
    if (heading label).1 = "Default" then some (stmtsOf body) else fallbackOf others
  | _ :: others => fallbackOf others
  | [] => none

end

/-- An outline whose word shows no statement with statements inside is read as one without. -/
theorem stmtOf_of_flat {outline : Outline}
    (flat : outline.word ∉ "Compound" :: "Switch" :: nestingWords) :
    stmtOf outline = flatOf outline := by
  obtain ⟨label, place, children⟩ := outline
  simp only [word, List.mem_cons, not_or] at flat
  obtain ⟨noBlock, noSwitch, noParts⟩ := flat
  rw [stmtOf, if_neg noBlock, if_neg noSwitch]
  exact if_neg noParts

/-- A simple statement is read as one. -/
theorem stmtOf_ofSimple (statement : Simple) :
    stmtOf (ofSimple statement).unplaced = .simple (statement.mapTokens Token.bare) := by
  obtain ⟨read, among⟩ := simpleOf_ofSimple statement
  have apart {word : String} (other : word ∉ simpleWords) :
      (ofSimple statement).unplaced.word ≠ word := ne_of_mem_of_not_mem among other
  have flat : (ofSimple statement).unplaced.word ∉ "Compound" :: "Switch" :: nestingWords := by
    have disjoint : ∀ word ∈ "Compound" :: "Switch" :: nestingWords, word ∉ simpleWords := by
      decide
    exact fun nests => disjoint _ nests among
  rw [stmtOf_of_flat flat, flatOf, if_neg (apart (by decide)), if_neg (apart (by decide)),
    if_neg (apart (by decide)), if_neg (apart (by decide)), if_neg (apart (by decide)), read]

/-- A declared variable is read as a statement. -/
theorem stmtOf_ofDeclared {type : TypeName} (name : Token) (typed : type.Shaped Token.Sound) :
    stmtOf (ofDeclared type name).unplaced =
      .declare (type.mapTokens Token.bare) name.bare := by
  have read : (ofDeclared type name).unplaced.word = "VarDecl" := by
    have read : heading "VarDecl" = ("VarDecl", "") := by decide
    rw [ofDeclared, unplaced_node, word, read]
  rw [stmtOf_of_flat (by rw [read]; decide), flatOf, if_pos read,
    declarationOf?_ofDeclared name typed]

variable {body : List Stmt}

/-- Statements that are read off their outlines one by one are read off all of them. -/
theorem stmtsOf_ofStmts
    (reads : ∀ item ∈ body, stmtOf (ofStmt item).unplaced = item.mapTokens Token.bare) :
    stmtsOf ((ofStmts body).map unplaced) = Stmt.mapTokensAll Token.bare body := by
  induction body with
  | nil => rfl
  | cons statement others ih =>
    obtain ⟨here, behind⟩ := List.forall_mem_cons.mp reads
    rw [ofStmts, List.map_cons, stmtsOf, Stmt.mapTokensAll, here, ih behind]

/-- A label row other than that of a default shows neither a case nor a default. -/
theorem casesOf_slot {label : String} (other : (heading label).1 ≠ "Default") (inner : Outline)
    (behind : List Outline) :
    casesOf (.node label none [inner] :: behind) = casesOf behind ∧
      fallbackOf (.node label none [inner] :: behind) = fallbackOf behind := by
  obtain ⟨innerLabel, innerPlace, innerChildren⟩ := inner
  rw [casesOf, fallbackOf, if_neg other]
  · exact ⟨rfl, rfl⟩
  · simp

/-- A default is read off its outline, and shows no case. -/
theorem fallbackOf_ofFallback {fallback : Option (List Stmt)}
    (reads : ∀ body ∈ fallback, ∀ item ∈ body,
      stmtOf (ofStmt item).unplaced = item.mapTokens Token.bare) :
    fallbackOf ((ofFallback fallback).map unplaced) =
        Stmt.mapTokensFallback Token.bare fallback ∧
      casesOf ((ofFallback fallback).map unplaced) = [] := by
  cases fallback with
  | none => exact ⟨rfl, rfl⟩
  | some body =>
    have read : heading "Default" = ("Default", "") := by decide
    have inner := stmtsOf_ofStmts (reads body rfl)
    simp only [ofFallback, slot, List.map_cons, List.map_nil, unplaced_node, fallbackOf, casesOf,
      read, if_pos, inner, Stmt.mapTokensFallback, and_self]

/-- Cases are read off their outlines in front of what shows no case, and show no default. -/
theorem casesOf_ofCases {cases : List Case} {last : List Outline}
    (reads : ∀ label body, .mk label body ∈ cases → ∀ item ∈ body,
      stmtOf (ofStmt item).unplaced = item.mapTokens Token.bare) (none : casesOf last = []) :
    casesOf ((ofCases cases).map unplaced ++ last) = Case.mapTokensAll Token.bare cases ∧
      fallbackOf ((ofCases cases).map unplaced ++ last) = fallbackOf last := by
  induction cases with
  | nil => exact ⟨none, rfl⟩
  | cons first others ih =>
    obtain ⟨label, body⟩ := first
    have inner := stmtsOf_ofStmts (reads label body List.mem_cons_self)
    obtain ⟨behind, noDefault⟩ := ih fun label body member =>
      reads label body (List.mem_cons_of_mem _ member)
    rw [ofCases, List.map_cons, ofCase, unplaced_node, List.map_cons, List.map_singleton,
      unplaced_node, List.cons_append]
    constructor
    · rw [casesOf, behind, inner, (exprOf_ofExpr label).1, Case.mapTokensAll, Case.mapTokens]
    · rw [fallbackOf, noDefault]
      simp

/-- What is read off the outline of a statement is the statement with its tokens replaced by their
texts. -/
theorem stmtOf_ofStmt {statement : Stmt} (shaped : statement.Shaped Token.Sound) :
    stmtOf (ofStmt statement).unplaced = statement.mapTokens Token.bare := by
  induction shaped with
  | block opens inner ih =>
    have read : heading "Compound" = ("Compound", "") := by decide
    rw [ofStmt, unplaced_node, stmtOf, read, if_pos rfl, stmtsOf_ofStmts ih, Stmt.mapTokens,
      Token.bare_of_spelling opens rfl]
  | declare typed named =>
    rw [ofStmt, stmtOf_ofDeclared _ typed, Stmt.mapTokens]
  | simple inner => rw [ofStmt, stmtOf_ofSimple, Stmt.mapTokens]
  | @print word items first some inner =>
    have read : heading "Print" = ("Print", "") := by decide
    have values : ((items.map ofExpr).map unplaced).map exprOf =
        items.map (Expr.mapTokens Token.bare) := by
      rw [List.map_map, List.map_map]
      exact List.map_congr_left fun item _ => (exprOf_ofExpr item).1
    simp only [ofStmt, unplaced_node, stmtOf, nestingWords, flatOf, Outline.word, read,
      Outline.children, values, Stmt.mapTokens, Token.bare_of_spelling first rfl]
    rfl
  | @branch word condition body otherwise first test inner last ihInner ihLast =>
    have read : heading "If" = ("If", "") := by decide
    have other : (partsOf ((ofElse otherwise).map unplaced)).head? =
        Stmt.mapTokensElse Token.bare otherwise := by
      cases otherwise with
      | none => rfl
      | some other =>
        simp only [ofElse, slot, List.map_cons, List.map_nil, unplaced_node, partsOf,
          ihLast other rfl, List.head?_cons, Stmt.mapTokensElse]
    simp only [ofStmt, unplaced_node, stmtOf, read, slot, List.map_cons, List.map_nil, partsOf,
      ihInner, Stmt.mapTokens, Token.bare_of_spelling first rfl, ← other,
      ← (exprOf_ofExpr condition).1]
    rfl
  | @whileLoop word condition body first test inner ih =>
    have read : heading "While" = ("While", "") := by decide
    simp only [ofStmt, unplaced_node, stmtOf, read, slot, List.map_cons, List.map_nil, partsOf, ih,
      Stmt.mapTokens, Token.bare_of_spelling first rfl, ← (exprOf_ofExpr condition).1]
    rfl
  | @doLoop word body condition first inner test ih =>
    have read : heading "DoWhile" = ("DoWhile", "") := by decide
    simp only [ofStmt, unplaced_node, stmtOf, read, slot, List.map_cons, List.map_nil, partsOf, ih,
      Stmt.mapTokens, Token.bare_of_spelling first rfl, ← (exprOf_ofExpr condition).1]
    rfl
  | @forLoop word start condition action body first begins test step inner ih =>
    have read : heading "For" = ("For", "") := by decide
    simp only [ofStmt, unplaced_node, stmtOf, read, slot, List.map_cons, List.map_nil, partsOf, ih,
      Stmt.mapTokens, Token.bare_of_spelling first rfl, ← forStartOf_ofForStart begins,
      ← (simpleOf_ofSimple condition).1, ← (simpleOf_ofSimple action).1]
    rfl
  | breakOut first =>
    have read : heading "Break" = ("Break", "") := by decide
    simp only [ofStmt, unplaced_node, stmtOf, flatOf, Outline.word, read, Stmt.mapTokens,
      Token.bare_of_spelling first rfl]
    rfl
  | continueLoop first =>
    have read : heading "Continue" = ("Continue", "") := by decide
    simp only [ofStmt, unplaced_node, stmtOf, flatOf, Outline.word, read, Stmt.mapTokens,
      Token.bare_of_spelling first rfl]
    rfl
  | @returnBack word value first inner =>
    have read : heading "Return" = ("Return", "") := by decide
    have back : ((value.toList.map ofExpr).map unplaced).head?.map exprOf =
        value.map (Expr.mapTokens Token.bare) := by
      cases value with
      | none => rfl
      | some value => exact congrArg some (exprOf_ofExpr value).1
    simp only [ofStmt, unplaced_node, stmtOf, flatOf, Outline.word, read, Stmt.mapTokens,
      Token.bare_of_spelling first rfl, ← back]
    rfl
  | @switch word condition cases fallback first test labels choices last ihChoices ihLast =>
    have read : heading "Switch" = ("Switch", "") := by decide
    obtain ⟨readLast, noCase⟩ := fallbackOf_ofFallback ihLast
    obtain ⟨readCases, noDefault⟩ := casesOf_ofCases ihChoices noCase
    have label : (heading "Condition").1 ≠ "Default" := by decide
    have skip := casesOf_slot label (ofExpr condition).unplaced
      ((ofCases cases).map unplaced ++ (ofFallback fallback).map unplaced)
    simp only [ofStmt, unplaced_node, stmtOf, read, slot, List.cons_append, List.map_cons,
      List.map_append, List.map_nil, Stmt.mapTokens, Token.bare_of_spelling first rfl, skip,
      readCases, noDefault, readLast, ← (exprOf_ofExpr condition).1]
    rfl

/-! ## Programs -/

/-- The token that an outline shows behind a word, if it shows that word. -/
def tokenBehind? (wanted : String) (outline : Outline) : Option Token :=
  if outline.word = wanted then some outline.tokenOf else none

/-- Whether an outline shows an entry point. -/
def isEntry (outline : Outline) : Bool := outline.word = "Main"

/-- The entry point that an outline shows, if it shows one. -/
def entryOf? (outline : Outline) : Option EntryPoint :=
  if outline.isEntry then
    some ⟨outline.tokenOf, .ofText Mark.leftBrace.spelling,
      stmtsOf (outline.children.flatMap Outline.children)⟩
  else none

/-- The program that an outline shows. What stands there after the entry point is told from what
stands before it by its position only. -/
def programOf (outline : Outline) : Program where
  includes := outline.children.filterMap (tokenBehind? "Include")
  usings := outline.children.filterMap (tokenBehind? "Using")
  before := (outline.children.takeWhile (!·.isEntry)).filterMap declarationOf?
  entry := outline.children.findSome? entryOf?
  after := (outline.children.dropWhile (!·.isEntry)).filterMap declarationOf?

/-- Included headers and used namespaces are read off their outlines. -/
theorem tokenOf_ofImport {label : String} (solid : ' ' ∉ label.toList) {name : Token}
    (suits : name.Suits Token.Sound (· = .name)) :
    (ofImport label name).unplaced.word = label ∧
      (ofImport label name).unplaced.tokenOf = name.bare := by
  have spaced : (label ++ " ").toList = label.toList ++ [' '] := String.toList_append
  have read := heading_append spaced solid (name.name?.getD "")
  rw [ofImport, unplaced_node, word, tokenOf, read, Token.bare_of_name suits]
  exact ⟨rfl, rfl⟩

/-- The outline of a declaration step shows one of two words. -/
theorem word_ofDeclaration (step : Declaration) :
    (ofDeclaration step).unplaced.word ∈ ["VarDecl", "Assign"] := by
  cases step with
  | declare type name =>
    have read : heading "VarDecl" = ("VarDecl", "") := by decide
    rw [ofDeclaration, ofDeclared, unplaced_node, word, read]
    decide
  | initial target op value =>
    rw [ofDeclaration, (declarationOf?_ofAssignment target op value).2]
    decide

/-- An entry point is read off its outline. -/
theorem entryOf?_ofEntryPoint {entry : EntryPoint} (shaped : entry.Shaped Token.Sound) :
    (ofEntryPoint entry).unplaced.word = "Main" ∧
      entryOf? (ofEntryPoint entry).unplaced = some (entry.mapTokens Token.bare) := by
  have read := @heading_append "Main " "Main" (by decide) (by decide) entry.name.text
  have body : stmtsOf ((ofStmts entry.body).map unplaced) =
      entry.body.map (Stmt.mapTokens Token.bare) := by
    rw [stmtsOf_ofStmts fun item member => stmtOf_ofStmt (shaped.inner item member)]
    induction entry.body with
    | nil => rfl
    | cons item others ih => rw [Stmt.mapTokensAll, ih, List.map_cons]
  simp only [ofEntryPoint, unplaced_node, List.map_cons, List.map_nil, entryOf?, isEntry,
    Outline.word, read, Outline.children, List.flatMap_cons, List.flatMap_nil, List.append_nil,
    body, tokenOf, EntryPoint.mapTokens, Token.bare_of_spelling shaped.opens rfl]
  exact ⟨trivial, rfl⟩

/-- What is shown of included headers or used namespaces. -/
def imports (label : String) (names : List Token) : List Outline :=
  (names.map (ofImport label)).map unplaced

/-- What is shown of declaration steps. -/
def declared (steps : List Declaration) : List Outline := (steps.map ofDeclaration).map unplaced

/-- What is shown of an entry point. -/
def entries (entry : Option EntryPoint) : List Outline :=
  (entry.toList.map ofEntryPoint).map unplaced

/-- What a program shows, part by part. -/
theorem children_outline (program : Program) :
    program.outline.unplaced.children =
      imports "Include" program.includes ++ imports "Using" program.usings ++
        declared program.before ++ (entries program.entry ++ declared program.after) := by
  rw [Program.outline, unplaced_node, children]
  simp only [List.map_append, List.append_assoc]
  rfl

/-- Outlines that show other words show no token behind a word. -/
theorem filterMap_tokenBehind?_eq_nil {wanted : String} {outlines : List Outline}
    {words : List String} (shown : ∀ outline ∈ outlines, outline.word ∈ words)
    (other : wanted ∉ words) : outlines.filterMap (tokenBehind? wanted) = [] :=
  List.filterMap_eq_nil_iff.mpr fun outline member =>
    if_neg (ne_of_mem_of_not_mem (shown outline member) other)

/-- Outlines that show other words than `Main` show no entry point. -/
theorem isEntry_eq_false {outlines : List Outline} {words : List String}
    (shown : ∀ outline ∈ outlines, outline.word ∈ words) (other : "Main" ∉ words) :
    ∀ outline ∈ outlines, outline.isEntry = false :=
  fun outline member => decide_eq_false (ne_of_mem_of_not_mem (shown outline member) other)

section Imports

variable {label : String} (solid : ' ' ∉ label.toList) {names : List Token}
  (suits : ∀ name ∈ names, name.Suits Token.Sound (· = .name))

include solid suits

/-- The word for an import is its label. -/
theorem word_imports : ∀ outline ∈ imports label names, outline.word ∈ [label] := by
  simp only [imports, List.forall_mem_map, List.mem_singleton]
  exact fun name member => (tokenOf_ofImport solid (suits name member)).1

/-- Names are read off what is shown of them. -/
theorem filterMap_imports :
    (imports label names).filterMap (tokenBehind? label) = names.map Token.bare := by
  rw [imports, List.filterMap_map, List.filterMap_map, ← List.filterMap_eq_map]
  refine List.filterMap_congr fun name member => ?_
  obtain ⟨word, token⟩ := tokenOf_ofImport solid (suits name member)
  show tokenBehind? label (ofImport label name).unplaced = some name.bare
  rw [tokenBehind?, if_pos word, token]

end Imports

/-- Imports show no declaration. -/
theorem declarationOf?_imports (label : String) (names : List Token) :
    (imports label names).filterMap declarationOf? = [] := by
  simp only [imports, List.filterMap_eq_nil_iff, List.forall_mem_map]
  exact fun _ _ => rfl

/-- The words for declaration steps. -/
theorem word_declared (steps : List Declaration) :
    ∀ outline ∈ declared steps, outline.word ∈ ["VarDecl", "Assign"] := by
  simp only [declared, List.forall_mem_map]
  exact fun step _ => word_ofDeclaration step

/-- Declaration steps are read off what is shown of them. -/
theorem declarationOf?_declared {steps : List Declaration}
    (shaped : Declared Token.Sound steps) :
    (declared steps).filterMap declarationOf? = steps.map (Declaration.mapTokens Token.bare) := by
  rw [declared, List.map_map]
  exact filterMap_declarationOf? shaped

/-- The word for an entry point. -/
theorem word_entries {entry : Option EntryPoint}
    (shaped : ∀ found ∈ entry, found.Shaped Token.Sound) :
    ∀ outline ∈ entries entry, outline.word ∈ ["Main"] := by
  simp only [entries, List.forall_mem_map, List.mem_singleton, Option.mem_toList]
  exact fun found member => (entryOf?_ofEntryPoint (shaped found member)).1

/-- An entry point shows no declaration. -/
theorem declarationOf?_entries (entry : Option EntryPoint) :
    (entries entry).filterMap declarationOf? = [] := by
  simp only [entries, List.filterMap_eq_nil_iff, List.forall_mem_map]
  exact fun _ _ => rfl

/-- Behind outlines that show no entry point one is found where it stands, and it parts what stands
before it from what stands behind. -/
theorem split_at_entry {front : List Outline} {entry : Option EntryPoint}
    {after : List Declaration} (plain : ∀ outline ∈ front, outline.isEntry = false)
    (shaped : ∀ found ∈ entry, found.Shaped Token.Sound) (settled : entry = none → after = []) :
    (front ++ (entries entry ++ declared after)).takeWhile (!·.isEntry) = front ∧
      (front ++ (entries entry ++ declared after)).dropWhile (!·.isEntry) =
        entries entry ++ declared after ∧
      (front ++ (entries entry ++ declared after)).findSome? entryOf? =
        entry.map (EntryPoint.mapTokens Token.bare) := by
  have passes : ∀ outline ∈ front, (!outline.isEntry) = true := by
    intro outline member
    rw [plain outline member]
    rfl
  have unread : front.findSome? entryOf? = none := by
    rw [List.findSome?_eq_none_iff]
    intro outline member
    rw [entryOf?, plain outline member]
    rfl
  rw [List.takeWhile_append_of_pos passes, List.dropWhile_append_of_pos passes,
    List.findSome?_append, unread]
  cases entry with
  | none =>
    -- Without an entry point nothing stands behind it, so the front is all there is.
    rw [settled rfl]
    exact ⟨List.append_nil front, rfl, rfl⟩
  | some entry =>
    obtain ⟨word, read⟩ := entryOf?_ofEntryPoint (shaped entry rfl)
    have stops : (ofEntryPoint entry).unplaced.isEntry = true := decide_eq_true word
    simp only [entries, Option.toList_some, List.map_cons, List.map_nil, List.cons_append,
      List.nil_append, List.takeWhile_cons, List.dropWhile_cons, stops, List.findSome?_cons, read]
    exact ⟨List.append_nil front, rfl, rfl⟩

/-- What is read off the outline of a program is the program with its tokens replaced by their
texts. -/
theorem programOf_outline {program : Program} (shaped : program.Shaped Token.Sound) :
    programOf program.outline.unplaced = program.mapTokens Token.bare := by
  have noBlankInclude : ' ' ∉ "Include".toList := by decide
  have noBlankUsing : ' ' ∉ "Using".toList := by decide
  have includes := filterMap_imports noBlankInclude shaped.includes
  have usings := filterMap_imports noBlankUsing shaped.usings
  have wordsIncludes := word_imports noBlankInclude shaped.includes
  have wordsUsings := word_imports noBlankUsing shaped.usings
  have wordsBefore := word_declared program.before
  have wordsAfter := word_declared program.after
  have wordsEntry := word_entries shaped.entry
  -- No name is read off what stands behind the imports.
  have noName {wanted : String} (noStep : wanted ∉ ["VarDecl", "Assign"])
      (noEntry : wanted ∉ ["Main"]) :
      (declared program.before ++ (entries program.entry ++ declared program.after)).filterMap
        (tokenBehind? wanted) = [] := by
    rw [List.filterMap_append, List.filterMap_append,
      filterMap_tokenBehind?_eq_nil wordsBefore noStep,
      filterMap_tokenBehind?_eq_nil wordsEntry noEntry,
      filterMap_tokenBehind?_eq_nil wordsAfter noStep]
    rfl
  have noEntry : ∀ outline ∈ imports "Include" program.includes ++
      imports "Using" program.usings ++ declared program.before, outline.isEntry = false := by
    simp only [List.forall_mem_append]
    exact ⟨⟨isEntry_eq_false wordsIncludes (by decide), isEntry_eq_false wordsUsings (by decide)⟩,
      isEntry_eq_false wordsBefore (by decide)⟩
  obtain ⟨before, after, entry⟩ := split_at_entry noEntry shaped.entry shaped.settled
  rw [programOf, children_outline, before, after, entry, Program.mapTokens, Program.mk.injEq]
  refine ⟨?_, ?_, ?_, rfl, ?_⟩
  · rw [List.append_assoc, List.filterMap_append, List.filterMap_append, includes,
      filterMap_tokenBehind?_eq_nil wordsUsings (by decide), noName (by decide) (by decide),
      List.append_nil, List.append_nil]
  · rw [List.append_assoc, List.filterMap_append, List.filterMap_append, usings,
      filterMap_tokenBehind?_eq_nil wordsIncludes (by decide), noName (by decide) (by decide),
      List.append_nil, List.nil_append]
  · rw [List.filterMap_append, List.filterMap_append, declarationOf?_imports,
      declarationOf?_imports, declarationOf?_declared shaped.before, List.nil_append,
      List.nil_append]
  · rw [List.filterMap_append, declarationOf?_entries, declarationOf?_declared shaped.after,
      List.nil_append]

end Outline

/-- The outline of a parsed program tells the program: another parsed program whose outline has rows
of the same depths and labels is equal to it once every token is replaced by its text. The first
row of the outline is that of the program itself, every other row is below it, and no row is more
than one level below the row before it. -/
theorem outline_tells_program {source : String} {program : Program}
    (parsed : parse source = .ok program) :
    (∀ other found, parse other = .ok found →
      found.outline.rows.map Outline.Row.shown = program.outline.rows.map Outline.Row.shown →
        found.mapTokens Token.bare = program.mapTokens Token.bare) ∧
    ∃ others, program.outline.rows = ⟨0, "Program", none⟩ :: others ∧
      (∀ row ∈ others, 1 ≤ row.depth) ∧ program.outline.rows.IsChain Outline.Row.Follows := by
  constructor
  · intro other found parsedOther same
    have outlines := Outline.unplaced_of_rows same
    have read := congrArg Outline.programOf outlines
    rw [Outline.programOf_outline (Program.sound_of_parse parsedOther),
      Outline.programOf_outline (Program.sound_of_parse parsed)] at read
    exact read
  · exact ⟨_, rfl, Outline.le_depth_rowsOfAll _ 1, Outline.isChain_rowsOfAll _ (Nat.le_refl 1)⟩

/-- The programs `int x='a';` and `int x=97;` are different, and their outlines tell everything but
that difference. -/
theorem outline_tells_program_char :
    ∃ left right, parse "int x='a';" = .ok left ∧ parse "int x=97;" = .ok right ∧
      left.before ≠ right.before ∧
      left.outline.rows.map Outline.Row.shown = right.outline.rows.map Outline.Row.shown ∧
      left.mapTokens Token.bare = right.mapTokens Token.bare := by
  obtain ⟨left, right, parsedLeft, parsedRight, differ, same⟩ :
      ∃ left right, parse "int x='a';" = .ok left ∧ parse "int x=97;" = .ok right ∧
        left.before ≠ right.before ∧
        left.outline.rows.map Outline.Row.shown = right.outline.rows.map Outline.Row.shown :=
    ⟨_, _, by cbv, by cbv, by decide, by decide⟩
  exact ⟨left, right, parsedLeft, parsedRight, differ, same,
    (outline_tells_program parsedRight).1 _ left parsedLeft same⟩

end Cpplet

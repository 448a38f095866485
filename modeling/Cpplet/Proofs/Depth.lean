import Cpplet.Proofs.Acceptance
import Cpplet.Proofs.Counting

/-!
# The budget of levels only rejects

A grammar that counts its open levels, and refuses to open one more than a limit, does what the
grammar does with the budget that the limit leaves at that depth (`Counted.Keeps`). It closes every
level that it opens, whether it accepts or rejects, and it never has more levels open than the limit
allows. This is kept by everything that parsers are made of; only `nested` changes the depth, and it
trades one level of the budget for one of the counter.

So the budget decides nothing but whether a source is given up for its nesting: what is read with
some budget, or refused for any other reason, is read or refused alike with every larger one.
-/

namespace Cpplet

variable {α β : Type}

namespace Counted

open Grammar

/-- Whether a counting parser, entered at some depth, does what a parser does, gives back every
level that it opens, and opens none beyond the limit. -/
def Keeps (limit depth : Nat) (counted : Counted α) (parser : Parser α) : Prop :=
  ∀ peak feed, ∃ reached, counted ⟨depth, peak⟩ feed = some (parser feed, ⟨depth, reached⟩) ∧
    peak ≤ reached ∧ reached ≤ max peak limit

variable {limit depth : Nat}

/-- What does not know of the gauge leaves it as it is. -/
theorem keeps_lift (parser : Parser α) : Keeps limit depth (lift parser) parser :=
  fun peak _ => ⟨peak, rfl, Nat.le_refl _, Nat.le_max_left _ _⟩

/-- A value leaves the gauge as it is. -/
theorem keeps_pure (value : α) : Keeps limit depth (Pure.pure value) (Pure.pure value) :=
  fun peak _ => ⟨peak, rfl, Nat.le_refl _, Nat.le_max_left _ _⟩

/-- Two parsers in a row keep the depth if both do. -/
theorem Keeps.bind {first : Counted α} {first' : Parser α} {second : α → Counted β}
    {second' : α → Parser β} (keeps : Keeps limit depth first first')
    (keepsNext : ∀ value, Keeps limit depth (second value) (second' value)) :
    Keeps limit depth (first >>= second) (first' >>= second') := by
  intro peak feed
  obtain ⟨middle, ran, above, below⟩ := keeps peak feed
  have unfolded : (first >>= second) ⟨depth, peak⟩ feed =
      Counted.bind first second ⟨depth, peak⟩ feed := rfl
  rw [unfolded, Counted.bind, ran, Parser.bind_apply]
  cases first' feed with
  | rejected error stop => exact ⟨middle, rfl, above, below⟩
  | accepted value rest =>
    obtain ⟨reached, ranNext, aboveNext, belowNext⟩ := keepsNext value middle rest
    exact ⟨reached, ranNext, by omega, by omega⟩

/-- Two ways to go on keep the depth if both do. -/
theorem keeps_ite {test : Prop} [Decidable test] {yes no : Counted α} {yes' no' : Parser α}
    (keepsYes : Keeps limit depth yes yes') (keepsNo : Keeps limit depth no no') :
    Keeps limit depth (if test then yes else no) (if test then yes' else no') := by
  split
  · exact keepsYes
  · exact keepsNo

/-- Two ways to go on, chosen by a test of the feed, keep the depth if both do. -/
theorem keeps_choose {test : Feed → Bool} {yes no : Counted α} {yes' no' : Parser α}
    (keepsYes : Keeps limit depth yes yes') (keepsNo : Keeps limit depth no no') :
    Keeps limit depth (choose test yes no) (Parser.choose test yes' no') := by
  intro peak feed
  unfold choose Parser.choose
  split
  · exact keepsYes peak feed
  · exact keepsNo peak feed

/-- A repetition over a number of rounds keeps the depth if each round does. -/
theorem keeps_manyWithin {go : Feed → Bool} {item : Counted α} {item' : Parser α}
    (keeps : Keeps limit depth item item') (rounds : Feed) :
    Keeps limit depth (manyWithin go item rounds) (Parser.manyWithin go item' rounds) := by
  induction rounds with
  | eof location | last token fault =>
    intro peak feed
    obtain ⟨middle, ran, above, below⟩ := keeps peak feed
    unfold manyWithin Parser.manyWithin
    split
    · rw [ran]
      cases item' feed <;> exact ⟨middle, rfl, above, below⟩
    · exact ⟨peak, rfl, Nat.le_refl _, Nat.le_max_left _ _⟩
  | more token rounds ih =>
    intro peak feed
    obtain ⟨middle, ran, above, below⟩ := keeps peak feed
    unfold manyWithin Parser.manyWithin
    split
    · rw [ran]
      cases item' feed with
      | rejected error stop => exact ⟨middle, rfl, above, below⟩
      | accepted value rest =>
        obtain ⟨reached, ranOthers, aboveOthers, belowOthers⟩ := ih middle rest
        simp only [ranOthers]
        refine ⟨reached, ?_, by omega, by omega⟩
        cases Parser.manyWithin go item' rounds rest <;> rfl
    · exact ⟨peak, rfl, Nat.le_refl _, Nat.le_max_left _ _⟩

/-- A repetition keeps the depth if each round does. -/
theorem keeps_many {go : Feed → Bool} {item : Counted α} {item' : Parser α}
    (keeps : Keeps limit depth item item') :
    Keeps limit depth (many go item) (Parser.many go item') :=
  fun peak feed => keeps_manyWithin keeps feed peak feed

/-- A level that may be opened is closed again. -/
theorem keeps_nested {what : Nesting} {inner : Counted α} {parser : Parser α}
    (room : depth < limit) (keeps : Keeps limit (depth + 1) inner parser) :
    Keeps limit depth (nested limit what inner) parser := by
  intro peak feed
  obtain ⟨reached, ran, above, below⟩ := keeps (max peak (depth + 1)) feed
  have deeper : inner (Gauge.deeper ⟨depth, peak⟩) feed =
      some (parser feed, ⟨depth + 1, reached⟩) := ran
  unfold nested
  rw [if_neg (by simpa using room), deeper]
  exact ⟨reached, rfl, by omega, by omega⟩

/-- No level is opened where the limit is reached. -/
theorem keeps_nested_tooDeep {what : Nesting} {inner : Counted α} (full : limit ≤ depth) :
    Keeps limit depth (nested limit what inner) (Parser.tooDeep what) := by
  intro peak feed
  unfold nested
  rw [if_pos (by exact full)]
  exact ⟨peak, rfl, Nat.le_refl _, Nat.le_max_left _ _⟩

section Expressions

variable {expr operand : Counted Expr} {expr' operand' : Parser Expr}

/-- Operands with operators of several levels between them keep the depth. -/
theorem keeps_ladder (tight : Keeps limit depth operand operand') (levels : List (List Mark)) :
    Keeps limit depth (ladder operand levels) (Grammar.ladder operand' levels) := by
  induction levels with
  | nil => exact tight
  | cons marks tighter ih =>
    have one := (keeps_lift Parser.advance).bind fun op => ih.bind fun right =>
      keeps_pure (op, right)
    exact ih.bind fun _ => (keeps_many one).bind fun _ => keeps_pure _

/-- What needs no parentheses keeps the depth. -/
theorem keeps_primary (inner : Keeps limit depth expr expr') :
    Keeps limit depth (primary expr) (Grammar.primary expr') := by
  refine (keeps_lift Parser.kind).bind fun kind => ?_
  split
  · exact (keeps_lift _).bind fun _ => inner.bind fun _ => (keeps_lift _).bind fun _ =>
      keeps_pure _
  · exact (keeps_lift _).bind fun _ => keeps_pure _
  rotate_right
  · -- The other grammar has come to its last case too.
    have last : Keeps limit depth (liftM (Parser.unexpected .expression : Parser Expr))
        (Parser.unexpected .expression) := keeps_lift _
    simp [*]
  all_goals exact keeps_lift _

/-- A primary expression with or without a step behind it keeps the depth. -/
theorem keeps_stepped (inner : Keeps limit depth expr expr') :
    Keeps limit depth (stepped expr) (Grammar.stepped expr') :=
  (keeps_primary inner).bind fun _ => (keeps_lift _).bind fun _ =>
    keeps_ite ((keeps_lift _).bind fun _ => keeps_pure _) (keeps_pure _)

/-- An expression that may begin with a step or a sign keeps the depth. -/
theorem keeps_signed (inner : Keeps limit depth expr expr')
    (tight : Keeps limit depth operand operand') :
    Keeps limit depth (signed expr operand) (Grammar.signed expr' operand') := by
  refine (keeps_lift Parser.kind).bind fun kind =>
    keeps_ite ?_ (keeps_ite ?_ (keeps_stepped inner))
  · exact (keeps_lift _).bind fun _ => (keeps_stepped inner).bind fun _ => keeps_pure _
  · exact (keeps_lift _).bind fun _ => tight.bind fun _ => keeps_pure _

/-- An operand of a binary operator keeps the depth. -/
theorem keeps_castOr (inner : Keeps limit depth expr expr')
    (tight : Keeps limit depth operand operand') :
    Keeps limit depth (castOr expr operand) (Grammar.castOr expr' operand') := by
  refine (keeps_lift (Parser.ahead castAhead)).bind fun _ => keeps_ite ?_ ?_
  · exact (keeps_lift _).bind fun _ => (keeps_lift _).bind fun _ => (keeps_lift _).bind fun _ =>
      tight.bind fun _ => keeps_pure _
  · refine (keeps_lift (Parser.ahead callAhead)).bind fun _ =>
      keeps_ite ?_ (keeps_signed inner tight)
    exact (keeps_lift _).bind fun _ => (keeps_lift _).bind fun _ => inner.bind fun _ =>
      (keeps_lift _).bind fun _ => keeps_pure _

/-- An expression with binary operators, and a choice behind it, keeps the depth. -/
theorem keeps_conditional (inner : Keeps limit depth expr expr')
    (tight : Keeps limit depth operand operand') :
    Keeps limit depth (conditional expr operand) (Grammar.conditional expr' operand') := by
  refine (keeps_ladder tight _).bind fun _ => (keeps_lift Parser.kind).bind fun _ =>
    keeps_ite ?_ (keeps_pure _)
  exact (keeps_lift _).bind fun _ => inner.bind fun _ => (keeps_lift _).bind fun _ =>
    inner.bind fun _ => keeps_pure _

end Expressions

/-- Expressions and operands with a counter do what they do with the budget that is left. -/
theorem keeps_expr_operand {budget calls : Nat} (left : depth + budget = limit)
    (enough : budget < calls) :
    Keeps limit depth (expr limit calls) (Grammar.expr budget) ∧
      Keeps limit depth (operand limit calls) (Grammar.operand budget) := by
  obtain ⟨fewer, rfl⟩ : ∃ fewer, calls = fewer + 1 := ⟨calls - 1, by omega⟩
  -- One call opens one level, so the budget and the calls go down together.
  induction budget generalizing depth fewer with
  | zero =>
    rw [expr, operand, Grammar.expr, Grammar.operand]
    have full : limit ≤ depth := by omega
    exact ⟨keeps_nested_tooDeep full, keeps_nested_tooDeep full⟩
  | succ budget ih =>
    obtain ⟨least, rfl⟩ : ∃ least, fewer = least + 1 := ⟨fewer - 1, by omega⟩
    obtain ⟨inner, tight⟩ := @ih (depth + 1) (by omega) least (by omega)
    rw [expr, operand, Grammar.expr, Grammar.operand]
    have room : depth < limit := by omega
    exact ⟨keeps_nested room (keeps_conditional inner tight),
      keeps_nested room (keeps_castOr inner tight)⟩

section Statements

variable {expr : Counted Expr} {expr' : Parser Expr} {statement : Counted Stmt}
  {statement' : Parser Stmt}

/-- One declared variable keeps the depth. -/
theorem keeps_declarator (inner : Keeps limit depth expr expr') (type : TypeName) :
    Keeps limit depth (declarator expr type) (Grammar.declarator expr' type) := by
  refine (keeps_lift _).bind fun _ => (keeps_lift Parser.kind).bind fun _ =>
    keeps_ite ?_ (keeps_pure _)
  exact (keeps_lift _).bind fun _ => inner.bind fun _ => keeps_pure _

/-- A declaration list keeps the depth. -/
theorem keeps_declarations (inner : Keeps limit depth expr expr') :
    Keeps limit depth (declarations expr) (Grammar.declarations expr') := by
  refine (keeps_lift _).bind fun type => ?_
  have one := keeps_declarator inner type
  refine one.bind fun _ => (keeps_many ((keeps_lift _).bind fun _ => one)).bind fun _ => ?_
  exact (keeps_lift _).bind fun _ => keeps_pure _

/-- An assignment or an expression keeps the depth. -/
theorem keeps_assignmentOr (inner : Keeps limit depth expr expr') :
    Keeps limit depth (assignmentOr expr) (Grammar.assignmentOr expr') := by
  refine (keeps_lift _).bind fun _ => keeps_ite ?_ (inner.bind fun _ => keeps_pure _)
  exact (keeps_lift _).bind fun _ => (keeps_lift _).bind fun _ => inner.bind fun _ =>
    keeps_pure _

/-- A simple statement keeps the depth. -/
theorem keeps_simple (inner : Keeps limit depth expr expr') :
    Keeps limit depth (simple expr) (Grammar.simple expr') := by
  refine (keeps_lift Parser.kind).bind fun _ => keeps_ite ?_ ?_
  · exact (keeps_lift _).bind fun _ => keeps_pure _
  · exact (keeps_assignmentOr inner).bind fun _ => (keeps_lift _).bind fun _ => keeps_pure _

/-- The items of a block keep the depth. -/
theorem keeps_items (inner : Keeps limit depth expr expr')
    (below : Keeps limit depth statement statement') (closers : List Kind) :
    Keeps limit depth (items expr statement closers) (Grammar.items expr' statement' closers) := by
  have one : Keeps limit depth
      (choose Grammar.atDeclaration (do return (← declarations expr).map Declaration.toStmt)
        (do return [← statement]))
      (Grammar.item expr' statement') :=
    keeps_choose ((keeps_declarations inner).bind fun _ => keeps_pure _)
      (below.bind fun _ => keeps_pure _)
  exact (keeps_many one).bind fun _ => keeps_pure _

/-- Items between braces keep the depth. -/
theorem keeps_braced (inner : Keeps limit depth expr expr')
    (below : Keeps limit depth statement statement') :
    Keeps limit depth (braced expr statement) (Grammar.braced expr' statement') :=
  (keeps_lift _).bind fun _ => (keeps_items inner below _).bind fun _ =>
    (keeps_lift _).bind fun _ => keeps_pure _

/-- An expression between parentheses keeps the depth. -/
theorem keeps_parenthesized (inner : Keeps limit depth expr expr') :
    Keeps limit depth (parenthesized expr) (Grammar.parenthesized expr') :=
  (keeps_lift _).bind fun _ => inner.bind fun _ => (keeps_lift _).bind fun _ => keeps_pure _

/-- An `if` statement keeps the depth. -/
theorem keeps_branch (inner : Keeps limit depth expr expr')
    (below : Keeps limit depth statement statement') :
    Keeps limit depth (branch expr statement) (Grammar.branch expr' statement') := by
  refine (keeps_lift _).bind fun _ => (keeps_parenthesized inner).bind fun _ =>
    below.bind fun _ => (keeps_lift Parser.kind).bind fun _ => keeps_ite ?_ (keeps_pure _)
  exact (keeps_lift _).bind fun _ => below.bind fun _ => keeps_pure _

/-- A loop with its test last keeps the depth. -/
theorem keeps_doLoop (inner : Keeps limit depth expr expr')
    (below : Keeps limit depth statement statement') :
    Keeps limit depth (doLoop expr statement) (Grammar.doLoop expr' statement') :=
  (keeps_lift _).bind fun _ => below.bind fun _ => (keeps_lift _).bind fun _ =>
    (keeps_parenthesized inner).bind fun _ => (keeps_lift _).bind fun _ => keeps_pure _

/-- A loop with a start, a test and an action keeps the depth. -/
theorem keeps_forLoop (inner : Keeps limit depth expr expr')
    (below : Keeps limit depth statement statement') :
    Keeps limit depth (forLoop expr statement) (Grammar.forLoop expr' statement') := by
  have start : Keeps limit depth (forStart expr) (Grammar.forStart expr') :=
    keeps_choose ((keeps_declarations inner).bind fun _ => keeps_pure _)
      ((keeps_simple inner).bind fun _ => keeps_pure _)
  have action : Keeps limit depth (forAction expr) (Grammar.forAction expr') :=
    (keeps_lift _).bind fun _ => keeps_ite (keeps_pure _) (keeps_assignmentOr inner)
  exact (keeps_lift _).bind fun _ => (keeps_lift _).bind fun _ => start.bind fun _ =>
    (keeps_simple inner).bind fun _ => action.bind fun _ => (keeps_lift _).bind fun _ =>
      below.bind fun _ => keeps_pure _

/-- A `return` statement keeps the depth. -/
theorem keeps_returnBack (inner : Keeps limit depth expr expr') :
    Keeps limit depth (returnBack expr) (Grammar.returnBack expr') := by
  refine (keeps_lift _).bind fun _ => (keeps_lift Parser.kind).bind fun _ => keeps_ite ?_ ?_
  · exact (keeps_lift _).bind fun _ => keeps_pure _
  · exact inner.bind fun _ => (keeps_lift _).bind fun _ => keeps_pure _

/-- A choice between cases keeps the depth. -/
theorem keeps_switch (inner : Keeps limit depth expr expr')
    (below : Keeps limit depth statement statement') :
    Keeps limit depth (switch expr statement) (Grammar.switch expr' statement') := by
  have one : Keeps limit depth (case expr statement) (Grammar.case expr' statement') :=
    (keeps_lift _).bind fun _ => (keeps_lift _).bind fun _ => (keeps_lift _).bind fun _ =>
      (keeps_items inner below _).bind fun _ => keeps_pure _
  have fallback : Keeps limit depth (fallback expr statement)
      (Grammar.fallback expr' statement') := by
    refine (keeps_lift Parser.kind).bind fun _ => keeps_ite ?_ (keeps_pure _)
    exact (keeps_lift _).bind fun _ => (keeps_lift _).bind fun _ =>
      (keeps_items inner below _).bind fun _ => keeps_pure _
  exact (keeps_lift _).bind fun _ => (keeps_parenthesized inner).bind fun _ =>
    (keeps_lift _).bind fun _ => (keeps_many one).bind fun _ => fallback.bind fun _ =>
      (keeps_lift _).bind fun _ => keeps_pure _

/-- A print statement keeps the depth. -/
theorem keeps_print {additive : Counted Expr} {additive' : Parser Expr}
    (inner : Keeps limit depth additive additive') :
    Keeps limit depth (print additive) (Grammar.print additive') := by
  have one : Keeps limit depth (printItem additive) (Grammar.printItem additive') :=
    (keeps_lift _).bind fun _ => inner
  exact (keeps_lift _).bind fun _ => one.bind fun _ => (keeps_many one).bind fun _ =>
    (keeps_lift _).bind fun _ => keeps_pure _

/-- A statement, chosen by its first token, keeps the depth. -/
theorem keeps_statementOf {additive : Counted Expr} {additive' : Parser Expr}
    (inner : Keeps limit depth expr expr') (sum : Keeps limit depth additive additive')
    (below : Keeps limit depth statement statement') :
    Keeps limit depth (statementOf expr additive statement)
      (Grammar.statementOf expr' additive' statement') := by
  refine (keeps_lift Parser.kind).bind fun kind => ?_
  split
  · exact keeps_branch inner below
  · exact (keeps_braced inner below).bind fun _ => keeps_pure _
  · exact (keeps_lift _).bind fun _ => (keeps_parenthesized inner).bind fun _ =>
      below.bind fun _ => keeps_pure _
  · exact keeps_doLoop inner below
  · exact keeps_forLoop inner below
  · exact keeps_returnBack inner
  · exact keeps_lift _
  · exact keeps_lift _
  · exact keeps_switch inner below
  · exact keeps_print sum
  · have last := (keeps_simple inner).bind fun content => keeps_pure (Stmt.simple content)
    simp [*]

end Statements

/-- Statements with a counter do what they do with the budget that is left. -/
theorem keeps_statement {budget calls : Nat} (left : depth + budget = limit)
    (enough : budget < calls) :
    Keeps limit depth (statement limit calls) (Grammar.statement budget) := by
  obtain ⟨fewer, rfl⟩ : ∃ fewer, calls = fewer + 1 := ⟨calls - 1, by omega⟩
  induction budget generalizing depth fewer with
  | zero =>
    have full : limit ≤ depth := by omega
    exact keeps_nested_tooDeep full
  | succ budget ih =>
    obtain ⟨least, rfl⟩ : ∃ least, fewer = least + 1 := ⟨fewer - 1, by omega⟩
    have deeper : depth + 1 + budget = limit := by omega
    obtain ⟨inner, tight⟩ := keeps_expr_operand deeper (by omega : budget < least + 1)
    have below := @ih (depth + 1) deeper least (by omega)
    have room : depth < limit := by omega
    rw [statement, Grammar.statement]
    exact keeps_nested room (keeps_statementOf inner (keeps_ladder tight _) below)

section Programs

variable {budget : Nat} {expr : Counted Expr} {statement : Counted Stmt}

/-- Something that stands before the entry point keeps the depth. -/
theorem keeps_opening (inner : Keeps limit depth expr (Grammar.expr budget)) :
    Keeps limit depth (openingOf expr) (Grammar.opening budget) := by
  refine (keeps_lift Parser.kind).bind fun kind => ?_
  split
  · exact keeps_lift _
  · exact keeps_lift _
  · have last := (keeps_declarations inner).bind fun steps =>
      keeps_pure (Grammar.Opening.declares steps)
    simp [*]

/-- The entry point keeps the depth. -/
theorem keeps_entryPoint (inner : Keeps limit depth expr (Grammar.expr budget))
    (below : Keeps limit depth statement (Grammar.statement budget)) :
    Keeps limit depth (entryPointOf expr statement) (Grammar.entryPoint budget) :=
  (keeps_lift _).bind fun _ => (keeps_lift _).bind fun _ => (keeps_lift _).bind fun _ =>
    (keeps_lift _).bind fun _ => (keeps_braced inner below).bind fun _ => keeps_pure _

/-- A whole program keeps the depth. -/
theorem keeps_wholeProgram (inner : Keeps limit depth expr (Grammar.expr budget))
    (below : Keeps limit depth statement (Grammar.statement budget)) :
    Keeps limit depth (wholeProgramOf expr statement) (Grammar.wholeProgram budget) := by
  have entry : Keeps limit depth (entryPointOf? expr statement) (Grammar.entryPoint? budget) := by
    refine (keeps_lift (Parser.ahead Grammar.entryAhead)).bind fun _ => keeps_ite ?_ (keeps_pure _)
    exact (keeps_entryPoint inner below).bind fun _ => keeps_pure _
  have program : Keeps limit depth (programOf expr statement) (Grammar.program budget) :=
    (keeps_many (keeps_opening inner)).bind fun _ => entry.bind fun _ =>
      (keeps_many (keeps_declarations inner)).bind fun _ => keeps_pure _
  exact program.bind fun _ => (keeps_lift _).bind fun _ => keeps_ite (keeps_pure _) (keeps_lift _)

end Programs

/-- As many calls as levels may be open, and one more, do not run out. -/
theorem keeps_expr_statement (within : depth ≤ limit) :
    Keeps limit depth (expr limit (limit + 1)) (Grammar.expr (limit - depth)) ∧
      Keeps limit depth (statement limit (limit + 1)) (Grammar.statement (limit - depth)) := by
  have left : depth + (limit - depth) = limit := by omega
  have calls : limit - depth < limit + 1 := by omega
  exact ⟨(keeps_expr_operand left calls).1, keeps_statement left calls⟩

end Counted

open Grammar

/-- What a source is parsed as does not change with a larger budget, unless nesting was given
up. -/
theorem parseWithin_of_le {budget larger : Nat} (enough : budget ≤ larger) (source : String) :
    (∃ nested location,
      parseWithin budget source = .error (.grammatical ⟨.tooDeep nested, location⟩)) ∨
      parseWithin larger source = parseWithin budget source := by
  unfold parseWithin
  cases Feed.ofCursor (.ofSource source) with
  | error fault => exact .inr rfl
  | ok feed =>
    have follows := follows_wholeProgram Comparison.discreet_same enough
    rcases Comparison.eq_of_follows follows feed with ⟨error, stop, rejected, deep⟩ | same
    · obtain ⟨breach, location⟩ := error
      cases breach with
      | unexpected expected found => cases deep
      | tooDeep nested =>
        refine .inl ⟨nested, location, ?_⟩
        simp only [parseFeed, rejected]
    · refine .inr ?_
      simp only [parseFeed, same]

/-- The budget of levels only rejects, and every level is given back. With a larger budget, a
source that is parsed is parsed as the same program, and one that is refused for anything but its
nesting is refused with the same error. A grammar that counts its open levels up to a limit does
the same as the grammar with what is left of the limit as its budget: entered at any depth up to
the limit, its expressions, statements, declaration lists, entry points, whole programs and looks
ahead return at the depth at which they were entered, whether they accept or reject; and a run
never has more levels open than the limit allows. -/
theorem nesting_only_rejects {limit larger : Nat} (enough : limit ≤ larger) (source : String) :
    (∀ program, parseWithin limit source = .ok program →
      parseWithin larger source = .ok program) ∧
    (∀ error, parseWithin limit source = .error error →
      (∀ nested location, error ≠ .grammatical ⟨.tooDeep nested, location⟩) →
        parseWithin larger source = .error error) ∧
    (∀ feed, ∃ peak ≤ limit,
      wholeProgramOf (Counted.expr limit (limit + 1)) (Counted.statement limit (limit + 1))
        ⟨0, 0⟩ feed = some (wholeProgram limit feed, ⟨0, peak⟩)) ∧
    ∀ depth ≤ limit,
      let expr := Counted.expr limit (limit + 1)
      let statement := Counted.statement limit (limit + 1)
      let budget := limit - depth
      Counted.Keeps limit depth expr (Grammar.expr budget) ∧
      Counted.Keeps limit depth statement (Grammar.statement budget) ∧
      Counted.Keeps limit depth (declarations expr) (declarations (Grammar.expr budget)) ∧
      Counted.Keeps limit depth (entryPointOf expr statement) (entryPoint budget) ∧
      Counted.Keeps limit depth (wholeProgramOf expr statement) (wholeProgram budget) ∧
      ∀ tests, Counted.Keeps limit depth (liftM (Parser.ahead tests)) (Parser.ahead tests) := by
  refine ⟨?_, ?_, ?_, ?_⟩
  · intro program parsed
    rcases parseWithin_of_le enough source with ⟨nested, location, failed⟩ | same
    · rw [parsed] at failed
      cases failed
    · rw [same, parsed]
  · intro error failed shallow
    rcases parseWithin_of_le enough source with ⟨nested, location, deep⟩ | same
    · rw [failed] at deep
      cases deep
      exact absurd rfl (shallow nested location)
    · rw [same, failed]
  · intro feed
    obtain ⟨inner, below⟩ := Counted.keeps_expr_statement (Nat.zero_le limit)
    obtain ⟨peak, ran, -, bound⟩ := Counted.keeps_wholeProgram inner below 0 feed
    exact ⟨peak, by omega, ran⟩
  · intro depth within
    obtain ⟨inner, below⟩ := Counted.keeps_expr_statement within
    exact ⟨inner, below, Counted.keeps_declarations inner, Counted.keeps_entryPoint inner below,
      Counted.keeps_wholeProgram inner below, fun tests => Counted.keeps_lift _⟩

set_option maxRecDepth 2000 in
/-- The source `int x=y;` opens two levels: it is given up with one level, and with two hundred it
is parsed as it is with two. -/
theorem nesting_only_rejects_initial :
    (∃ nested location,
      parseWithin 1 "int x=y;" = .error (.grammatical ⟨.tooDeep nested, location⟩)) ∧
    2 ≤ 200 ∧ ∃ program, parseWithin 2 "int x=y;" = .ok program ∧
      parseWithin 200 "int x=y;" = .ok program := by
  have deep : ∃ nested location,
      parseWithin 1 "int x=y;" = .error (.grammatical ⟨.tooDeep nested, location⟩) :=
    ⟨.expression, ⟨1, 7⟩, by cbv⟩
  have parsed : ∃ program, parseWithin 2 "int x=y;" = .ok program := ⟨_, by cbv⟩
  have enough : 2 ≤ 200 := by decide
  obtain ⟨program, parsed⟩ := parsed
  obtain ⟨same, -⟩ := nesting_only_rejects enough "int x=y;"
  exact ⟨deep, enough, program, parsed, same program parsed⟩

end Cpplet

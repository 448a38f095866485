import Cpplet.Grammar.Stmt
import Cpplet.Proofs.Derivation
import Cpplet.Proofs.Expressions

/-!
# Statements are read as they are written

Every parser of a declaration or statement reads what the grammar writes there. As with
expressions, the parsers of what stands inside are arguments, and the budget is taken away at the
end. What a parser has read so far is kept in the language that is left to read, so a proof
follows its parser token by token and closes with the production that it was after.

An `else` needs more than the language of its statement: the parser takes an `else` wherever it
can, so none is left behind a statement that ends with an open `if` (`ensures_statement`).
-/

namespace Cpplet.Grammar

open Cpplet.Parser

/-- A mark and what stands behind it are read. -/
theorem reads_behind {α : Type} {parser : Parser α} {language : Language α} (symbol : Mark)
    (inner : parser.Reads language) :
    Reads (do let _ ← mark symbol; parser) (Language.Behind (.mark symbol) language) := by
  refine (reads_mark symbol).step ?_
  rintro _ token ⟨rfl, same⟩
  exact inner.mono fun tokens value member => .mk same member

/-- What stands behind a mark is never without tokens. -/
theorem behind_ne_nil {α : Type} {kind : Kind} {language : Language α} (tokens : List Token)
    (value : α) (member : Language.Behind kind language tokens value) : tokens ≠ [] := by
  cases member
  exact List.cons_ne_nil _ _

/-- Where something stands behind a mark again and again, it is read. -/
theorem reads_manyBehind {α : Type} {parser : Parser α} {language : Language α} {symbol : Mark}
    (inner : parser.Reads (Language.Behind (.mark symbol) language)) :
    Reads (ParserLike.manyAt (.mark symbol) parser)
      (Language.Star (Language.Behind (.mark symbol) language)) :=
  reads_many (fun feed _ => inner.fits feed) behind_ne_nil

/-- The type of a declaration list is read. -/
theorem reads_typeName : Reads typeName TypeWritten := by
  refine reads_kind_ite ?_ ?_
  · refine (reads_word .constWord).step ?_
    rintro _ word ⟨rfl, first⟩
    refine reads_typeWord.step ?_
    rintro _ type ⟨rfl, kind⟩
    exact reads_done (.const first kind)
  · refine reads_typeWord.step ?_
    rintro _ type ⟨rfl, kind⟩
    exact reads_done (.plain kind)

section Parts

variable {expr additive : Parser Expr} {statement : Parser Stmt}

/-- One declared variable is read. -/
theorem reads_declarator (inner : expr.Reads (written Rank.choice)) (type : TypeName) :
    Reads (declarator expr type) (DeclaratorWritten type) := by
  refine reads_name.step ?_
  rintro _ target ⟨rfl, kind⟩
  refine reads_kind_ite ?_ (reads_done (.plain kind))
  refine (reads_mark .assign).step ?_
  rintro _ op ⟨rfl, assigns⟩
  refine inner.step fun tokens value writes => ?_
  exact reads_done (.initial kind assigns writes)

/-- A declaration list is read. -/
theorem reads_declarations (inner : expr.Reads (written Rank.choice)) :
    Reads (declarations expr) DeclarationsWritten := by
  refine reads_typeName.step fun front type typed => ?_
  refine (reads_declarator inner type).step fun middle first head => ?_
  have others : Reads (nextDeclarator expr type) _ :=
    reads_behind .comma (reads_declarator inner type)
  refine (reads_manyBehind others).step fun behind others tail => ?_
  refine (reads_mark .semicolon).step ?_
  rintro _ semicolon ⟨rfl, ends⟩
  exact reads_done (.mk typed head tail ends)

/-- An assignment or an expression is read. -/
theorem reads_assignmentOr (inner : expr.Reads (written Rank.choice)) :
    Reads (assignmentOr expr) ActionWritten := by
  refine reads_ahead_ite ?_ ?_
  · refine reads_name.step ?_
    rintro _ target ⟨rfl, kind⟩
    refine (@reads_satisfy Kind.isAssignment rfl (.mark .assign) rfl _).step ?_
    rintro _ op ⟨rfl, assigns⟩
    refine inner.step fun tokens value writes => ?_
    exact reads_done (.assign kind assigns writes)
  · refine inner.step fun tokens value writes => ?_
    exact reads_done (.evaluate writes)

/-- A simple statement is read. -/
theorem reads_simple (inner : expr.Reads (written Rank.choice)) :
    Reads (simple expr) SimpleWritten := by
  refine reads_kind_ite ?_ ?_
  · refine (reads_mark .semicolon).step ?_
    rintro _ semicolon ⟨rfl, ends⟩
    exact reads_done (.nothing ends)
  · refine (reads_assignmentOr inner).step fun tokens action acts => ?_
    refine (reads_mark .semicolon).step ?_
    rintro _ semicolon ⟨rfl, ends⟩
    exact reads_done (.action acts ends)

/-- What fits where no declarations begin fits the sequences that do not begin like them. -/
theorem fits_undeclared {α : Type} {language : Language α} {feed : Feed} {outcome : Outcome α}
    (fits : outcome.Fits language feed) (other : feed.kind.declares = false)
    {tokens : List Token} {value : α} (member : language tokens value)
    (plain : declaresAhead tokens = false) :
    outcome.Fits (fun tokens value => language tokens value ∧ declaresAhead tokens = false)
      feed := by
  cases outcome with
  | accepted found rest =>
    obtain ⟨front, rfl, accepted⟩ := fits
    refine ⟨front, rfl, accepted, ?_⟩
    cases front with
    | nil => rfl
    | cons token front => exact other
  | rejected error stop =>
    obtain ⟨front, rfl, opens, bears⟩ := fits
    refine ⟨front, rfl, ?_, bears⟩
    -- Tokens that were passed settle how the sequence begins; without any, some sequence will do.
    cases front with
    | nil => exact ⟨tokens, value, member, plain⟩
    | cons token front =>
      obtain ⟨more, found, follow⟩ := opens
      exact ⟨more, found, follow, other⟩

/-- A semicolon alone writes a simple statement. -/
theorem simple_sample : SimpleWritten [sample (.mark .semicolon)] .nothing := .nothing rfl

/-- Declarations, or one statement that does not begin like them. -/
inductive ItemWritten : Language (List Stmt) where
  | declarations {tokens : List Token} {steps : List Declaration}
      (inner : DeclarationsWritten tokens steps) :
      ItemWritten tokens (steps.map Declaration.toStmt)
  | statement {tokens : List Token} {tree : Stmt} (inner : statements tokens tree)
      (other : declaresAhead tokens = false) : ItemWritten tokens [tree]

/-- An item of a block is read. -/
theorem reads_item (inner : expr.Reads (written Rank.choice))
    (below : statement.Reads statements) : Reads (item expr statement) ItemWritten where
  opens := Language.opens_nil (.statement (.simple simple_sample) rfl)
  fits feed := by
    rw [item, ParserLike.choose_self, choose]
    split
    · have reads : Reads (do return (← declarations expr).map Declaration.toStmt) ItemWritten :=
        (reads_declarations inner).step fun tokens steps declared =>
          reads_done (.declarations declared)
      exact reads.fits feed
    · rename_i other
      have reads : Reads (do return [← statement]) fun tokens trees =>
          ∃ tree, trees = [tree] ∧ statements tokens tree :=
        below.step fun tokens tree writes => reads_done ⟨tree, rfl, writes⟩
      refine (fits_undeclared (reads.fits feed) (Bool.eq_false_iff.mpr other)
        ⟨_, rfl, .simple simple_sample⟩ rfl).mono ?_
      rintro tokens trees ⟨⟨tree, rfl, writes⟩, plain⟩
      exact .statement writes plain

/-- A declaration list is never without tokens. -/
theorem declarations_ne_nil {tokens : List Token} {steps : List Declaration}
    (declared : DeclarationsWritten tokens steps) : tokens ≠ [] := by
  cases declared
  simp

/-- A statement is never without tokens. -/
theorem statements_ne_nil {tokens : List Token} {tree : Stmt} (writes : statements tokens tree) :
    tokens ≠ [] := by
  cases writes with
  | simple inner => cases inner <;> simp
  | _ => simp

/-- An item is never without tokens. -/
theorem item_ne_nil (tokens : List Token) (trees : List Stmt) (member : ItemWritten tokens trees) :
    tokens ≠ [] := by
  cases member with
  | declarations inner => exact declarations_ne_nil inner
  | statement inner other => exact statements_ne_nil inner

/-- Items one behind the other are the items of a block. -/
theorem itemLists_of_star {tokens : List Token} {groups : List (List Stmt)}
    (star : Language.Star ItemWritten tokens groups) : itemLists tokens groups.flatten := by
  induction star with
  | nil => exact .noItem
  | cons first others ih =>
    cases first with
    | declarations inner => exact .declarations inner ih
    | statement inner other => exact .item inner other ih

/-- The items of a block are read. -/
theorem reads_items (inner : expr.Reads (written Rank.choice))
    (below : statement.Reads statements) (closers : List Kind) :
    Reads (items expr statement closers) itemLists := by
  have groups : Reads (many (before closers) (item expr statement)) (Language.Star ItemWritten) :=
    reads_many (fun feed _ => (reads_item inner below).fits feed) item_ne_nil
  refine groups.step fun tokens groups star => ?_
  exact reads_done (itemLists_of_star star)

/-- Items between braces. -/
inductive BracedWritten : Language (Token × List Stmt) where
  | mk {brace closing : Token} {tokens : List Token} {body : List Stmt}
      (opens : brace.kind = .mark .leftBrace) (inner : itemLists tokens body)
      (closes : closing.kind = .mark .rightBrace) :
      BracedWritten (brace :: (tokens ++ [closing])) (brace, body)

/-- Items between braces are read. -/
theorem reads_braced (inner : expr.Reads (written Rank.choice))
    (below : statement.Reads statements) : Reads (braced expr statement) BracedWritten := by
  refine (reads_mark .leftBrace).step ?_
  rintro _ brace ⟨rfl, opens⟩
  refine (reads_items inner below _).step fun tokens body writes => ?_
  refine (reads_mark .rightBrace).step ?_
  rintro _ closing ⟨rfl, closes⟩
  exact reads_done (.mk opens writes closes)

/-- An expression between parentheses. -/
inductive ParenthesizedWritten : Language Expr where
  | mk {left right : Token} {tokens : List Token} {expr : Expr}
      (opens : left.kind = .mark .leftParen) (inner : written Rank.choice tokens expr)
      (closes : right.kind = .mark .rightParen) :
      ParenthesizedWritten (left :: (tokens ++ [right])) expr

/-- An expression between parentheses is read. -/
theorem reads_parenthesized (inner : expr.Reads (written Rank.choice)) :
    Reads (parenthesized expr) ParenthesizedWritten := by
  refine (reads_mark .leftParen).step ?_
  rintro _ left ⟨rfl, opens⟩
  refine inner.step fun tokens value writes => ?_
  refine (reads_mark .rightParen).step ?_
  rintro _ right ⟨rfl, closes⟩
  exact reads_done (.mk opens writes closes)

/-- Behind a statement that ends with an open `if` no `else` is left. -/
def TakesElse (tree : Stmt) (rest : Feed) : Prop :=
  tree.endsOpen = true → rest.kind ≠ .keyword .elseWord

/-- An `if` statement is read. -/
theorem reads_branch (inner : expr.Reads (written Rank.choice))
    (below : statement.Reads statements) (takes : statement.Ensures TakesElse) :
    Reads (branch expr statement) statements := by
  refine (reads_word .ifWord).step ?_
  rintro _ word ⟨rfl, first⟩
  refine (reads_parenthesized inner).step ?_
  rintro _ condition ⟨opens, test, closes⟩
  rename_i left right front
  have alone : ∀ tokens body, statements tokens body →
      Reads (Pure.pure (Stmt.branch word condition body none))
        (((statements.after [word]).after (left :: (front ++ [right]))).after tokens) := by
    intro tokens body writes
    have whole := PhraseWritten.branch first opens test closes writes
    exact reads_done (by simpa [statements, Language.after] using whole)
  refine below.ensuring takes (fun tokens body writes => (alone tokens body writes).opens) ?_
  intro tokens body writes rest taken
  rw [ParserLike.liftM_self, bind_apply, kind_apply, Outcome.accepted_andThen]
  by_cases other : rest.kind = .keyword .elseWord
  · rw [if_pos other]
    have closed : body.endsOpen = false := Bool.eq_false_iff.mpr fun ends => taken ends other
    refine Reads.fits ((reads_word .elseWord).step ?_) rest
    rintro _ other ⟨rfl, second⟩
    refine below.step fun behind otherwise last => ?_
    have whole := PhraseWritten.branchElse first opens test closes writes closed second last
    exact reads_done (by simpa [statements, Language.after] using whole)
  · rw [if_neg other]
    exact (alone tokens body writes).fits rest

/-- A loop with its test first is read. -/
theorem reads_whileLoop (inner : expr.Reads (written Rank.choice))
    (below : statement.Reads statements) : Reads (whileLoop expr statement) statements := by
  refine (reads_word .whileWord).step ?_
  rintro _ word ⟨rfl, first⟩
  refine (reads_parenthesized inner).step ?_
  rintro _ condition ⟨opens, test, closes⟩
  refine below.step fun behind body writes => ?_
  have whole := PhraseWritten.whileLoop first opens test closes writes
  exact reads_done (by simpa [statements, Language.after] using whole)

/-- A loop with its test last is read. -/
theorem reads_doLoop (inner : expr.Reads (written Rank.choice))
    (below : statement.Reads statements) : Reads (doLoop expr statement) statements := by
  refine (reads_word .doWord).step ?_
  rintro _ word ⟨rfl, first⟩
  refine below.step fun front body writes => ?_
  refine (reads_word .whileWord).step ?_
  rintro _ again ⟨rfl, second⟩
  refine (reads_parenthesized inner).step ?_
  rintro _ condition ⟨opens, test, closes⟩
  refine (reads_mark .semicolon).step ?_
  rintro _ semicolon ⟨rfl, ends⟩
  have whole := PhraseWritten.doLoop first writes second opens test closes ends
  exact reads_done (by simpa [statements, Language.after] using whole)

/-- What a `for` statement begins with is read. -/
theorem reads_forStart (inner : expr.Reads (written Rank.choice)) :
    Reads (forStart expr) ForStartWritten where
  opens := Language.opens_nil (.simple simple_sample rfl)
  fits feed := by
    rw [forStart, ParserLike.choose_self, choose]
    split
    · have reads : Reads (do return .declarations (← declarations expr)) ForStartWritten :=
        (reads_declarations inner).step fun tokens steps declared =>
          reads_done (.declarations declared)
      exact reads.fits feed
    · rename_i other
      have reads : Reads (do return ForStart.simple (← simple expr)) fun tokens start =>
          ∃ statement, start = .simple statement ∧ SimpleWritten tokens statement :=
        (reads_simple inner).step fun tokens statement writes => reads_done ⟨statement, rfl, writes⟩
      refine (fits_undeclared (reads.fits feed) (Bool.eq_false_iff.mpr other)
        ⟨_, rfl, simple_sample⟩ rfl).mono ?_
      rintro tokens start ⟨⟨statement, rfl, writes⟩, plain⟩
      exact .simple writes plain

/-- What a `for` statement does after each round is read. -/
theorem reads_forAction (inner : expr.Reads (written Rank.choice)) :
    Reads (forAction expr) ForActionWritten := by
  refine reads_kind_ite ?_ ((reads_assignmentOr inner).mono fun _ _ acts => .action acts)
  exact (reads_pure Simple.nothing).mono fun tokens action ⟨empty, same⟩ => by
    rw [empty, same]
    exact .nothing

/-- A loop with a start, a test and an action is read. -/
theorem reads_forLoop (inner : expr.Reads (written Rank.choice))
    (below : statement.Reads statements) : Reads (forLoop expr statement) statements := by
  refine (reads_word .forWord).step ?_
  rintro _ word ⟨rfl, first⟩
  refine (reads_mark .leftParen).step ?_
  rintro _ left ⟨rfl, opens⟩
  refine (reads_forStart inner).step fun starts start begins => ?_
  refine (reads_simple inner).step fun tests condition test => ?_
  refine (reads_forAction inner).step fun acts action step => ?_
  refine (reads_mark .rightParen).step ?_
  rintro _ right ⟨rfl, closes⟩
  refine below.step fun behind body writes => ?_
  exact reads_done (PhraseWritten.forLoop first opens begins test step closes writes)

/-- A `return` statement is read. -/
theorem reads_returnBack (inner : expr.Reads (written Rank.choice)) :
    Reads (returnBack expr) statements := by
  refine (reads_word .returnWord).step ?_
  rintro _ word ⟨rfl, first⟩
  refine reads_kind_ite ?_ ?_
  · refine (reads_mark .semicolon).step ?_
    rintro _ semicolon ⟨rfl, ends⟩
    exact reads_done (PhraseWritten.returnNothing first ends)
  · refine inner.step fun tokens value writes => ?_
    refine (reads_mark .semicolon).step ?_
    rintro _ semicolon ⟨rfl, ends⟩
    exact reads_done (PhraseWritten.returnValue first writes ends)

/-- The label of a case is read. -/
theorem reads_caseLabel : Reads caseLabel labels := by
  refine reads_kind_ite ?_ (reads_constant.mono ?_)
  · refine reads_name.step ?_
    rintro _ token ⟨rfl, kind⟩
    exact reads_done ⟨token, rfl, .name kind⟩
  · rintro tokens label ⟨token, rfl, -, writes⟩
    exact ⟨token, rfl, writes⟩

/-- A label and the items behind it. -/
inductive CaseWritten : Language Case where
  | mk {word colon : Token} {front behind : List Token} {label : Expr} {body : List Stmt}
      (first : word.kind = .keyword .caseWord) (named : labels front label)
      (parts : colon.kind = .mark .colon) (inner : itemLists behind body) :
      CaseWritten (word :: (front ++ colon :: behind)) (.mk label body)

/-- A case is read. -/
theorem reads_case (inner : expr.Reads (written Rank.choice))
    (below : statement.Reads statements) : Reads (case expr statement) CaseWritten := by
  refine (reads_word .caseWord).step ?_
  rintro _ word ⟨rfl, first⟩
  refine reads_caseLabel.step fun front label named => ?_
  refine (reads_mark .colon).step ?_
  rintro _ colon ⟨rfl, parts⟩
  refine (reads_items inner below _).step fun behind body writes => ?_
  exact reads_done (CaseWritten.mk first named parts writes)

/-- A case is never without tokens. -/
theorem case_ne_nil (tokens : List Token) (tree : Case) (member : CaseWritten tokens tree) :
    tokens ≠ [] := by
  cases member
  exact List.cons_ne_nil _ _

/-- Cases one behind the other are the cases of a choice. -/
theorem cases_of_star {tokens : List Token} {trees : List Case}
    (star : Language.Star CaseWritten tokens trees) : PhraseWritten (.cases trees) tokens := by
  induction star with
  | nil => exact .noCase
  | cons first others ih =>
    obtain ⟨first, named, parts, inner⟩ := first
    have whole := PhraseWritten.case first named parts inner ih
    simpa using whole

/-- The items for every other value are read. -/
theorem reads_fallback (inner : expr.Reads (written Rank.choice))
    (below : statement.Reads statements) :
    Reads (fallback expr statement) fun tokens trees => PhraseWritten (.fallback trees) tokens := by
  refine reads_kind_ite ?_ ?_
  · refine (reads_word .defaultWord).step ?_
    rintro _ word ⟨rfl, first⟩
    refine (reads_mark .colon).step ?_
    rintro _ colon ⟨rfl, parts⟩
    refine (reads_items inner below _).step fun tokens body writes => ?_
    exact reads_done (PhraseWritten.fallback first parts writes)
  · refine (reads_pure none).mono ?_
    rintro tokens trees ⟨rfl, rfl⟩
    exact .noFallback

/-- A choice between cases is read. -/
theorem reads_switch (inner : expr.Reads (written Rank.choice))
    (below : statement.Reads statements) : Reads (switch expr statement) statements := by
  have many : Reads (ParserLike.manyAt (.keyword .caseWord) (case expr statement))
      (Language.Star CaseWritten) :=
    reads_many (fun feed _ => (reads_case inner below).fits feed) case_ne_nil
  refine (reads_word .switchWord).step ?_
  rintro _ word ⟨rfl, first⟩
  refine (reads_parenthesized inner).step ?_
  rintro _ condition ⟨opens, test, closes⟩
  refine (reads_mark .leftBrace).step ?_
  rintro _ brace ⟨rfl, enters⟩
  refine many.step fun middle cases star => ?_
  refine (reads_fallback inner below).step fun behind fallback last => ?_
  refine (reads_mark .rightBrace).step ?_
  rintro _ closing ⟨rfl, leaves⟩
  have whole :=
    PhraseWritten.switch first opens test closes enters (cases_of_star star) last leaves
  exact reads_done (by simpa [statements, Language.after] using whole)

/-- A print statement is read. -/
theorem reads_print (inner : additive.Reads (written Rank.additive)) :
    Reads (print additive) statements := by
  have one : Reads (printItem additive) printed := reads_behind .shiftLeft inner
  refine (reads_word .coutWord).step ?_
  rintro _ word ⟨rfl, first⟩
  refine one.step fun front value head => ?_
  refine (reads_manyBehind one).step fun behind values tail => ?_
  refine (reads_mark .semicolon).step ?_
  rintro _ semicolon ⟨rfl, ends⟩
  exact reads_done (PhraseWritten.print first head tail ends)

/-- A statement that is one keyword is read. -/
theorem reads_single {keyword : Keyword} {build : Token → Stmt}
    (member : ∀ word semicolon : Token, word.kind = .keyword keyword →
      semicolon.kind = .mark .semicolon → statements [word, semicolon] (build word)) :
    Reads (single keyword build) statements := by
  refine (reads_word keyword).step ?_
  rintro _ word ⟨rfl, first⟩
  refine (reads_mark .semicolon).step ?_
  rintro _ semicolon ⟨rfl, ends⟩
  exact reads_done (member word semicolon first ends)

/-- A statement is read. -/
theorem reads_statementOf (inner : expr.Reads (written Rank.choice))
    (sums : additive.Reads (written Rank.additive)) (below : statement.Reads statements)
    (takes : statement.Ensures TakesElse) :
    Reads (statementOf expr additive statement) statements := by
  unfold statementOf
  refine reads_kind_bind (Language.opens_nil (.simple simple_sample)) fun feed => ?_
  generalize feed.kind = kind
  split
  · exact (reads_branch inner below takes).fits feed
  · refine Reads.fits ((reads_braced inner below).step ?_) feed
    rintro _ _ ⟨opens, writes, closes⟩
    exact reads_done (PhraseWritten.block opens writes closes)
  · exact (reads_whileLoop inner below).fits feed
  · exact (reads_doLoop inner below).fits feed
  · exact (reads_forLoop inner below).fits feed
  · exact (reads_returnBack inner).fits feed
  · exact (reads_single fun _ _ first ends => .breakOut first ends).fits feed
  · exact (reads_single fun _ _ first ends => .continueLoop first ends).fits feed
  · exact (reads_switch inner below).fits feed
  · exact (reads_print sums).fits feed
  · refine Reads.fits ((reads_simple inner).step fun tokens simple writes => ?_) feed
    exact reads_done (PhraseWritten.simple writes)

/-- A statement that cannot end open leaves any `else` behind it. -/
theorem takesElse_of_closed {tree : Stmt} (closed : tree.endsOpen = false) (rest : Feed) :
    TakesElse tree rest := by
  intro ends
  rw [closed] at ends
  cases ends

/-- What ends with a statement takes every `else` that this one takes. -/
theorem ensures_ending (takes : statement.Ensures TakesElse) {build : Stmt → Stmt}
    (same : ∀ tree, (build tree).endsOpen = tree.endsOpen) :
    Ensures TakesElse (do return build (← statement)) := by
  intro feed tree rest accepted ends
  rw [bind_apply] at accepted
  cases result : statement feed with
  | accepted body last =>
    rw [result] at accepted
    cases accepted
    rw [same] at ends
    exact takes feed body _ result ends
  | rejected error stop =>
    rw [result] at accepted
    cases accepted

/-- An `if` statement takes every `else` that it can. -/
theorem ensures_branch (takes : statement.Ensures TakesElse) :
    Ensures TakesElse (branch expr statement) := by
  refine .bind fun word => .bind fun condition => .bind fun body => ?_
  intro feed tree rest accepted
  rw [ParserLike.liftM_self, bind_apply, kind_apply, Outcome.accepted_andThen] at accepted
  by_cases other : feed.kind = .keyword .elseWord
  · rw [if_pos other] at accepted
    have ending : Ensures TakesElse (do
        let _ ← Parser.word .elseWord
        return .branch word condition body (some (← statement))) :=
      .bind fun _ => ensures_ending takes fun tree => by rw [Stmt.endsOpen]
    exact ending feed tree rest accepted
  · rw [if_neg other] at accepted
    cases accepted
    exact fun _ => other

/-- A statement takes every `else` that it can. -/
theorem ensures_statementOf (takes : statement.Ensures TakesElse) :
    Ensures TakesElse (statementOf expr additive statement) := by
  -- Only a branch, a `while` and a `for` can end open; all else is built closed at the end.
  have closed : ∀ tree : Stmt, tree.endsOpen = false → Ensures TakesElse (Pure.pure tree) :=
    fun tree closed => ensures_pure (takesElse_of_closed closed)
  refine .bind fun kind => ?_
  split
  · exact ensures_branch takes
  · exact .bind fun _ => closed _ rfl
  · exact .bind fun _ => .bind fun _ => ensures_ending takes fun tree => by rw [Stmt.endsOpen]
  · exact .bind fun _ => .bind fun _ => .bind fun _ => .bind fun _ => .bind fun _ => closed _ rfl
  · exact .bind fun _ => .bind fun _ => .bind fun _ => .bind fun _ => .bind fun _ => .bind fun _ =>
      ensures_ending takes fun tree => by rw [Stmt.endsOpen]
  · refine .bind fun _ => .bind fun kind => ?_
    split
    · exact .bind fun _ => closed _ rfl
    · exact .bind fun _ => .bind fun _ => closed _ rfl
  · exact .bind fun _ => .bind fun _ => closed _ rfl
  · exact .bind fun _ => .bind fun _ => closed _ rfl
  · exact .bind fun _ => .bind fun _ => .bind fun _ => .bind fun _ => .bind fun _ => .bind fun _ =>
      closed _ rfl
  · exact .bind fun _ => .bind fun _ => .bind fun _ => .bind fun _ => closed _ rfl
  · exact .bind fun _ => closed _ rfl

end Parts

/-- Whatever the budget, a statement takes every `else` that it can. -/
theorem ensures_statement (budget : Nat) : (statement budget).Ensures TakesElse := by
  induction budget with
  | zero =>
    intro feed tree rest accepted
    cases accepted
  | succ budget ih => exact ensures_statementOf ih

/-- Statements are read, whatever the budget. -/
theorem reads_statement (budget : Nat) : Reads (statement budget) statements := by
  induction budget with
  | zero => exact reads_tooDeep (Language.opens_nil (.simple simple_sample)) _
  | succ budget ih =>
    exact reads_statementOf (reads_expr budget) (reads_additive budget) ih
      (ensures_statement budget)

/-- Every round of reading items takes a token. -/
theorem shrinks_item (budget : Nat) (closers : List Kind) :
    Shrinks (before closers) (item (expr budget) (statement budget)) :=
  shrinks_of_fits
    (fun feed _ => (reads_item (reads_expr budget) (reads_statement budget)).fits feed) item_ne_nil

/-- Every round of reading cases takes a token. -/
theorem shrinks_case (budget : Nat) :
    Shrinks (fun feed => decide (feed.kind = .keyword .caseWord))
      (case (expr budget) (statement budget)) :=
  shrinks_of_fits
    (fun feed _ => (reads_case (reads_expr budget) (reads_statement budget)).fits feed) case_ne_nil

end Cpplet.Grammar

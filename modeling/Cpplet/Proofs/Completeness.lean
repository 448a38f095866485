import Cpplet.Proofs.Recognition

/-!
# Statements and programs that are written are read

The induction over the grammar of statements, one lemma for each production, and then programs. A
statement is read before everything that cannot go on with it, which is everything but an `else`
behind an open `if`; the items of a block are read before the tokens that close them.
-/

namespace Cpplet

/-- The kinds that close the items of a block or of a case. -/
def Kind.closesItems : Kind → Bool
  | .keyword .caseWord | .keyword .defaultWord | .mark .rightBrace => true
  | _ => false

namespace Grammar

open Cpplet.Parser

/-- Whether kinds close items. -/
def Closing (closers : List Kind) : Prop := ∀ kind ∈ closers, kind.closesItems = true

/-- What a phrase of the grammar comes to: it is read if the budget is large enough. -/
def ReadBack : Phrase → List Token → Prop
  | .statement tree, tokens => Eventually fun budget => ∀ follow, TakesElse tree follow →
      statement budget (tokens ++ follow) = .accepted tree follow
  | .items trees, tokens => Eventually fun budget => ∀ (closers : List Kind) (follow : Feed),
      Closing closers → before closers follow = false →
        items (expr budget) (statement budget) closers (tokens ++ follow) = .accepted trees follow
  | .cases trees, tokens => Eventually fun budget => ∀ follow : Feed,
      (follow.kind = .keyword .defaultWord ∨ follow.kind = .mark .rightBrace) →
        ParserLike.manyAt (.keyword .caseWord) (case (expr budget) (statement budget))
          (tokens ++ follow) = .accepted trees follow
  | .fallback trees, tokens => Eventually fun budget => ∀ follow : Feed,
      follow.kind = .mark .rightBrace →
        fallback (expr budget) (statement budget) (tokens ++ follow) = .accepted trees follow

/-- A statement is to be read one level below. -/
theorem readBack_statement {tokens : List Token} {tree : Stmt}
    (back : Eventually fun budget => ∀ follow, TakesElse tree follow →
      statementOf (expr budget) (additive budget) (statement budget) (tokens ++ follow) =
        .accepted tree follow) :
    ReadBack (.statement tree) tokens :=
  Eventually.above back

/-- What is written in parentheses is read in them. -/
theorem eventually_parenthesized {left right : Token} {tokens : List Token} {tree : Expr}
    (opens : left.kind = .mark .leftParen) (inner : written Rank.choice tokens tree)
    (closes : right.kind = .mark .rightParen) :
    Eventually fun budget => ∀ follow : Feed,
      parenthesized (expr budget) (.more left (tokens ++ Feed.more right follow)) =
        .accepted tree follow := by
  refine (eventually_expr inner).mono fun budget reads follow => ?_
  have back := reads (.more right follow) (by rw [Feed.kind_more, closes]; rfl)
  simp [parenthesized, mark_more opens, back, mark_more closes]

/-- A token that begins nothing but a simple statement begins one. -/
theorem statementOf_simple {expr additive : Parser Expr} {statement : Parser Stmt} {feed : Feed}
    (other : feed.kind.heads = false) :
    statementOf expr additive statement feed =
      (simple expr feed).andThen fun simple => Pure.pure (.simple simple) := by
  rw [statementOf, ParserLike.liftM_self, bind_apply, kind_apply, Outcome.accepted_andThen]
  revert other
  generalize feed.kind = kind
  intro other
  split
  rotate_right
  · rw [bind_apply]
  all_goals cases other

section Productions

variable {word left right semicolon : Token} {front middle behind tokens : List Token}
  {condition : Expr} {body otherwise : Stmt}

/-- A simple statement is read. -/
theorem readBack_simple {statement : Simple} (inner : SimpleWritten tokens statement) :
    ReadBack (.statement (.simple statement)) tokens := by
  refine readBack_statement ((eventually_simple inner).mono fun budget reads follow _ => ?_)
  have other : (tokens ++ follow).kind.heads = false := by
    cases inner with
    | nothing ends =>
      rw [Feed.cons_append, Feed.kind_more, ends]
      rfl
    | action acts ends =>
      obtain ⟨first, behind, rfl, starts⟩ := startsExpr_of_action acts
      show first.kind.heads = false
      revert starts
      cases first.kind with
      | mark symbol => cases symbol <;> decide
      | keyword word => cases word <;> decide
      | _ => decide
  rw [statementOf_simple other, reads follow]
  rfl

/-- Items between braces are read. -/
theorem eventually_braced {brace closing : Token} {trees : List Stmt}
    (opens : brace.kind = .mark .leftBrace) (inner : ReadBack (.items trees) tokens)
    (closes : closing.kind = .mark .rightBrace) :
    Eventually fun budget => ∀ follow : Feed,
      braced (expr budget) (statement budget) (.more brace (tokens ++ Feed.more closing follow)) =
        .accepted (brace, trees) follow := by
  refine Eventually.mono inner fun budget reads follow => ?_
  have back := reads [.mark .rightBrace] (.more closing follow)
    (by simp [Closing, Kind.closesItems])
    (by simp [before, closes])
  simp [braced, mark_more opens, back, mark_more closes]

/-- A block is read. -/
theorem readBack_block {brace closing : Token} {trees : List Stmt}
    (opens : brace.kind = .mark .leftBrace) (inner : ReadBack (.items trees) tokens)
    (closes : closing.kind = .mark .rightBrace) :
    ReadBack (.statement (.block brace trees)) (brace :: (tokens ++ [closing])) := by
  refine readBack_statement ((eventually_braced opens inner closes).mono ?_)
  intro budget reads follow _
  simp [statementOf, opens, reads follow]

/-- An `if` statement without an `else` is read. -/
theorem readBack_branch (first : word.kind = .keyword .ifWord)
    (opens : left.kind = .mark .leftParen) (test : written Rank.choice front condition)
    (closes : right.kind = .mark .rightParen) (inner : ReadBack (.statement body) behind) :
    ReadBack (.statement (.branch word condition body none))
      (word :: left :: (front ++ right :: behind)) := by
  refine readBack_statement (((eventually_parenthesized opens test closes).and inner).mono ?_)
  rintro budget ⟨tested, reads⟩ follow taken
  have ends : follow.kind ≠ .keyword .elseWord := taken (by rw [Stmt.endsOpen])
  have back := reads follow fun _ => ends
  simp [statementOf, first, branch, word_more first, tested, back, ends]

/-- An `if` statement with an `else` is read. -/
theorem readBack_branchElse {other : Token} (first : word.kind = .keyword .ifWord)
    (opens : left.kind = .mark .leftParen) (test : written Rank.choice front condition)
    (closes : right.kind = .mark .rightParen) (inner : ReadBack (.statement body) middle)
    (closed : body.endsOpen = false) (second : other.kind = .keyword .elseWord)
    (last : ReadBack (.statement otherwise) behind) :
    ReadBack (.statement (.branch word condition body (some otherwise)))
      (word :: left :: (front ++ right :: (middle ++ other :: behind))) := by
  refine readBack_statement
    (((eventually_parenthesized opens test closes).and (Eventually.and inner last)).mono ?_)
  rintro budget ⟨tested, reads, readsLast⟩ follow taken
  have back := reads (.more other (behind ++ follow)) (takesElse_of_closed closed _)
  have backLast := readsLast follow fun ends => taken (by rw [Stmt.endsOpen]; exact ends)
  simp [statementOf, first, branch, word_more first, tested, back, second, word_more second,
    backLast]

/-- A loop with its test first is read. -/
theorem readBack_whileLoop (first : word.kind = .keyword .whileWord)
    (opens : left.kind = .mark .leftParen) (test : written Rank.choice front condition)
    (closes : right.kind = .mark .rightParen) (inner : ReadBack (.statement body) behind) :
    ReadBack (.statement (.whileLoop word condition body))
      (word :: left :: (front ++ right :: behind)) := by
  refine readBack_statement (((eventually_parenthesized opens test closes).and inner).mono ?_)
  rintro budget ⟨tested, reads⟩ follow taken
  have back := reads follow fun ends => taken (by rw [Stmt.endsOpen]; exact ends)
  simp [statementOf, first, whileLoop, word_more first, tested, back]

/-- A loop with its test last is read. -/
theorem readBack_doLoop {again : Token} (first : word.kind = .keyword .doWord)
    (inner : ReadBack (.statement body) front) (second : again.kind = .keyword .whileWord)
    (opens : left.kind = .mark .leftParen) (test : written Rank.choice behind condition)
    (closes : right.kind = .mark .rightParen) (ends : semicolon.kind = .mark .semicolon) :
    ReadBack (.statement (.doLoop word body condition))
      (word :: (front ++ again :: left :: (behind ++ [right, semicolon]))) := by
  refine readBack_statement
    ((Eventually.and inner (eventually_parenthesized opens test closes)).mono ?_)
  rintro budget ⟨reads, tested⟩ follow _
  have back := reads (.more again (.more left (behind ++ Feed.more right (.more semicolon follow))))
    fun _ => by simp [second]
  simp [statementOf, first, doLoop, word_more first, back, word_more second, tested,
    mark_more ends]

/-- A loop with a start, a test and an action is read. -/
theorem readBack_forLoop {starts tests acts : List Token} {start : ForStart} {check action : Simple}
    (first : word.kind = .keyword .forWord) (opens : left.kind = .mark .leftParen)
    (begins : ForStartWritten starts start) (test : SimpleWritten tests check)
    (step : ForActionWritten acts action) (closes : right.kind = .mark .rightParen)
    (inner : ReadBack (.statement body) behind) :
    ReadBack (.statement (.forLoop word start check action body))
      (word :: left :: (starts ++ (tests ++ (acts ++ right :: behind)))) := by
  refine readBack_statement (((eventually_forStart begins).and ((eventually_simple test).and
    ((eventually_forAction step).and inner))).mono ?_)
  rintro budget ⟨begun, tested, acted, reads⟩ follow taken
  have backAction := acted (.more right (behind ++ follow)) closes
  have back := reads follow fun ends => taken (by rw [Stmt.endsOpen]; exact ends)
  simp [statementOf, first, forLoop, word_more first, mark_more opens, begun, tested, backAction,
    mark_more closes, back]

/-- A `return` with a value is read. -/
theorem readBack_returnValue {value : Expr} (first : word.kind = .keyword .returnWord)
    (inner : written Rank.choice tokens value) (ends : semicolon.kind = .mark .semicolon) :
    ReadBack (.statement (.returnBack word (some value))) (word :: (tokens ++ [semicolon])) := by
  refine readBack_statement ((eventually_expr inner).mono fun budget reads follow _ => ?_)
  have back := reads (.more semicolon follow) (by rw [Feed.kind_more, ends]; rfl)
  obtain ⟨cost, writes⟩ := inner
  obtain ⟨next, others, rfl, starts⟩ := writes.begins.startsExpr
  have other : next.kind ≠ .mark .semicolon := by
    intro same
    rw [same] at starts
    cases starts
  simp only [Feed.cons_append] at back
  simp [statementOf, first, returnBack, word_more first, other, back, mark_more ends]

/-- A print statement is read. -/
theorem readBack_print {value : Expr} {values : List Expr}
    (first : word.kind = .keyword .coutWord) (head : printed front value)
    (tail : Language.Star printed behind values) (ends : semicolon.kind = .mark .semicolon) :
    ReadBack (.statement (.print word (value :: values)))
      (word :: (front ++ (behind ++ [semicolon]))) := by
  have each : ∀ front value, written Rank.additive front value →
      Eventually fun budget => ∀ behind, AtEither .shiftLeft .semicolon behind →
        additive budget (front ++ behind) = .accepted value behind := by
    intro front value inner
    refine (eventually_additive inner).mono fun budget reads behind ends => ?_
    exact reads behind (by rcases ends with ends | ends <;> rw [ends] <;> rfl)
  obtain ⟨same, inner⟩ := head
  have others := eventually_manyBehind (by decide) reads_additive each tail
  refine readBack_statement (((each _ _ inner).and others).mono ?_)
  rintro budget ⟨reads, readsOthers⟩ follow _
  have head := reads (behind ++ Feed.more semicolon follow) (atEither_of_star tail ends)
  have tail := readsOthers (.more semicolon follow) ends
  simp [statementOf, first, print, word_more first, printItem, mark_more same, head, tail,
    mark_more ends]

/-- One more item is read in front of others. -/
theorem items_cons {budget : Nat} {closers : List Kind} {feed rest follow : Feed}
    {group trees : List Stmt} (goes : before closers feed = true)
    (first : item (expr budget) (statement budget) feed = .accepted group rest)
    (others : items (expr budget) (statement budget) closers rest = .accepted trees follow) :
    items (expr budget) (statement budget) closers feed = .accepted (group ++ trees) follow := by
  rw [items, ParserLike.many_self, bind_apply] at others ⊢
  cases groups : many (before closers) (item (expr budget) (statement budget)) rest with
  | rejected error stop =>
    rw [groups] at others
    cases others
  | accepted found last =>
    rw [groups] at others
    cases others
    rw [many_cons (shrinks_item budget closers) goes first groups]
    rfl

/-- The kinds that may begin an item close none and are no `else`. -/
theorem closesItems_of_starts {kind : Kind}
    (starts : kind.declares = true ∨ kind.startsStatement = true) :
    kind.closesItems = false ∧ kind ≠ .eof ∧ kind ≠ .keyword .elseWord := by
  revert starts
  cases kind with
  | mark symbol => cases symbol <;> decide
  | keyword word => cases word <;> decide
  | _ => decide

/-- Where an item may begin, items go on. -/
theorem before_of_starts {closers : List Kind} (closing : Closing closers) {feed : Feed}
    (starts : feed.kind.declares = true ∨ feed.kind.startsStatement = true) :
    before closers feed = true := by
  obtain ⟨unclosed, inner, -⟩ := closesItems_of_starts starts
  have absent : feed.kind ∉ closers := by
    intro member
    rw [closing _ member] at unclosed
    cases unclosed
  simp [before, absent, inner]

/-- Where items end there is no `else`. -/
theorem not_else_of_before {closers : List Kind} (closing : Closing closers) {feed : Feed}
    (stops : before closers feed = false) : feed.kind ≠ .keyword .elseWord := by
  intro same
  have absent : Kind.keyword .elseWord ∉ closers := by
    intro member
    cases closing _ member
  simp [before, same, absent] at stops

/-- A declaration list begins where an item may. -/
theorem kind_of_declarations {steps : List Declaration}
    (declared : DeclarationsWritten tokens steps) (follow : Feed) :
    (tokens ++ follow).kind.declares = true := by
  have ahead := atDeclaration_append (declarations_ne_nil declared) follow
  rw [declaresAhead_of_declarations declared] at ahead
  exact ahead

/-- A statement begins where an item may. -/
theorem kind_of_statements {tree : Stmt} (writes : statements tokens tree) (follow : Feed) :
    (tokens ++ follow).kind.startsStatement = true := by
  obtain ⟨first, others, rfl, starts⟩ := startsStatement_of_statements writes
  exact starts

/-- Behind an item there is no `else`. -/
theorem not_else_of_items {trees : List Stmt} (writes : PhraseWritten (.items trees) tokens)
    {closers : List Kind} (closing : Closing closers) {follow : Feed}
    (stops : before closers follow = false) : (tokens ++ follow).kind ≠ .keyword .elseWord := by
  cases writes with
  | noItem => exact not_else_of_before closing stops
  | declarations head tail =>
    rw [Feed.append_append]
    exact (closesItems_of_starts (.inl (kind_of_declarations head _))).2.2
  | item head other tail =>
    rw [Feed.append_append]
    exact (closesItems_of_starts (.inr (kind_of_statements head _))).2.2

/-- Declarations in front of other items are read. -/
theorem readBack_declarations {steps : List Declaration} {others : List Stmt}
    (head : DeclarationsWritten front steps) (tail : ReadBack (.items others) behind) :
    ReadBack (.items (steps.map Declaration.toStmt ++ others)) (front ++ behind) := by
  refine ((eventually_declarations head).and tail).mono ?_
  rintro budget ⟨reads, readsOthers⟩ closers follow closing stops
  have declares : atDeclaration (front ++ (behind ++ follow)) = true :=
    kind_of_declarations head (behind ++ follow)
  have first : item (expr budget) (statement budget) (front ++ (behind ++ follow)) =
      .accepted (steps.map Declaration.toStmt) (behind ++ follow) := by
    simp [item, choose, declares, reads]
  rw [Feed.append_append]
  exact items_cons (before_of_starts closing (.inl declares)) first
    (readsOthers closers follow closing stops)

/-- A statement in front of other items is read. -/
theorem readBack_item {others : List Stmt} (writes : statements front body)
    (head : ReadBack (.statement body) front) (plain : declaresAhead front = false)
    (writesOthers : PhraseWritten (.items others) behind) (tail : ReadBack (.items others) behind) :
    ReadBack (.items (body :: others)) (front ++ behind) := by
  refine (Eventually.and head tail).mono ?_
  rintro budget ⟨reads, readsOthers⟩ closers follow closing stops
  have declares := atDeclaration_append (statements_ne_nil writes) (behind ++ follow)
  rw [plain] at declares
  have back := reads (behind ++ follow) fun _ => not_else_of_items writesOthers closing stops
  have first : item (expr budget) (statement budget) (front ++ (behind ++ follow)) =
      .accepted [body] (behind ++ follow) := by
    simp [item, choose, declares, back]
  rw [Feed.append_append]
  exact items_cons (before_of_starts closing (.inr (kind_of_statements writes _))) first
    (readsOthers closers follow closing stops)

/-- The kinds that close the items of a case. -/
theorem closing_caseBody :
    Closing [.keyword .caseWord, .keyword .defaultWord, .mark .rightBrace] := by
  simp [Closing, Kind.closesItems]

/-- A case in front of others is read. -/
theorem readBack_case {colon : Token} {label : Expr} {trees : List Stmt} {others : List Case}
    (first : word.kind = .keyword .caseWord) (named : labels front label)
    (parts : colon.kind = .mark .colon) (inner : ReadBack (.items trees) middle)
    (writesOthers : PhraseWritten (.cases others) behind) (tail : ReadBack (.cases others) behind) :
    ReadBack (.cases (.mk label trees :: others))
      (word :: (front ++ colon :: (middle ++ behind))) := by
  refine (Eventually.and inner tail).mono ?_
  rintro budget ⟨reads, readsOthers⟩ follow ends
  have stops : before [.keyword .caseWord, .keyword .defaultWord, .mark .rightBrace]
      (behind ++ follow) = false := by
    cases writesOthers with
    | noCase => rcases ends with ends | ends <;> simp [before, ends]
    | case next named parts inner tail => simp [before, next]
  have labelled := caseLabel_of_written named (.more colon (middle ++ (behind ++ follow)))
  have back := reads _ (behind ++ follow) closing_caseBody stops
  have one : case (expr budget) (statement budget)
      (.more word (front ++ Feed.more colon (middle ++ (behind ++ follow)))) =
      .accepted (.mk label trees) (behind ++ follow) := by
    simp [case, word_more first, labelled, mark_more parts, caseBody, back]
  have others := readsOthers follow ends
  simp only [Feed.cons_append, Feed.append_append]
  exact many_cons (shrinks_case budget) (by simp [first]) one others

/-- The items for other values are read. -/
theorem readBack_fallback {colon : Token} {trees : List Stmt}
    (first : word.kind = .keyword .defaultWord) (parts : colon.kind = .mark .colon)
    (inner : ReadBack (.items trees) tokens) :
    ReadBack (.fallback (some trees)) (word :: colon :: tokens) := by
  refine Eventually.mono inner fun budget reads follow ends => ?_
  have back := reads _ follow closing_caseBody (by simp [before, ends])
  simp [fallback, first, word_more first, mark_more parts, caseBody, back]

/-- A choice between cases is read. -/
theorem readBack_switch {brace closing : Token} {cases : List Case}
    {fallback : Option (List Stmt)} (first : word.kind = .keyword .switchWord)
    (opens : left.kind = .mark .leftParen) (test : written Rank.choice front condition)
    (closes : right.kind = .mark .rightParen) (enters : brace.kind = .mark .leftBrace)
    (choices : ReadBack (.cases cases) middle)
    (writesLast : PhraseWritten (.fallback fallback) behind)
    (last : ReadBack (.fallback fallback) behind) (leaves : closing.kind = .mark .rightBrace) :
    ReadBack (.statement (.switch word condition cases fallback))
      (word :: left :: (front ++ right :: brace :: (middle ++ (behind ++ [closing])))) := by
  refine readBack_statement
    (((eventually_parenthesized opens test closes).and (Eventually.and choices last)).mono ?_)
  rintro budget ⟨tested, reads, readsLast⟩ follow _
  have ends : (behind ++ Feed.more closing follow).kind = .keyword .defaultWord ∨
      (behind ++ Feed.more closing follow).kind = .mark .rightBrace := by
    cases writesLast with
    | noFallback => exact .inr leaves
    | fallback next parts inner => exact .inl next
  have back := reads (behind ++ Feed.more closing follow) ends
  have backLast := readsLast (.more closing follow) leaves
  simp [statementOf, first, switch, word_more first, tested, mark_more enters, back, backLast,
    mark_more leaves]

end Productions

/-- Everything that is made of statements is read as it is written. -/
theorem readBack_of_written {phrase : Phrase} {tokens : List Token}
    (writes : PhraseWritten phrase tokens) : ReadBack phrase tokens := by
  induction writes with
  | simple inner => exact readBack_simple inner
  | block opens inner closes ih => exact readBack_block opens ih closes
  | branch first opens test closes inner ih => exact readBack_branch first opens test closes ih
  | branchElse first opens test closes inner closed second last ih ihLast =>
    exact readBack_branchElse first opens test closes ih closed second ihLast
  | whileLoop first opens test closes inner ih =>
    exact readBack_whileLoop first opens test closes ih
  | doLoop first inner second opens test closes ends ih =>
    exact readBack_doLoop first ih second opens test closes ends
  | forLoop first opens begins test step closes inner ih =>
    exact readBack_forLoop first opens begins test step closes ih
  | returnNothing first ends =>
    refine readBack_statement (.always fun budget follow _ => ?_)
    simp [statementOf, first, returnBack, word_more first, ends, mark_more ends]
  | returnValue first inner ends => exact readBack_returnValue first inner ends
  | breakOut first ends =>
    refine readBack_statement (.always fun budget follow _ => ?_)
    simp [statementOf, first, single, word_more first, mark_more ends]
  | continueLoop first ends =>
    refine readBack_statement (.always fun budget follow _ => ?_)
    simp [statementOf, first, single, word_more first, mark_more ends]
  | switch first opens test closes enters choices last leaves ih ihLast =>
    exact readBack_switch first opens test closes enters ih last ihLast leaves
  | print first head tail ends => exact readBack_print first head tail ends
  | noItem =>
    refine .always fun budget closers follow _ stops => ?_
    simp [items, many_stop stops]
  | declarations head tail ih => exact readBack_declarations head ih
  | item head other tail ih ihTail => exact readBack_item head ih other tail ihTail
  | noCase =>
    refine .always fun budget follow ends => many_stop ?_
    rcases ends with ends | ends
    all_goals simp [ends]
  | case first named parts inner tail ih ihTail =>
    exact readBack_case first named parts ih tail ihTail
  | noFallback => exact .always fun budget follow ends => by simp [fallback, ends]
  | fallback first parts inner ih => exact readBack_fallback first parts ih

/-- The name of a header is read up to the mark that closes it. -/
theorem headerName_of_written {tokens : List Token} {header : Token}
    (named : HeaderWritten tokens header) {follow : Feed}
    (closes : follow.kind = .mark .greater) :
    headerName (tokens ++ follow) = .accepted header follow := by
  obtain @⟨first, behind, others, kind, tail⟩ := named
  have each : ∀ front part, Language.one .name front part →
      Eventually fun _ => ∀ behind, AtEither .dot .greater behind →
        name (front ++ behind) = .accepted part behind := by
    rintro _ part ⟨rfl, same⟩
    exact .always fun _ behind _ => eat_more same behind
  obtain ⟨budget, reads⟩ := eventually_manyBehind (by decide) (fun _ => reads_name) each tail
  have tail :
      ParserLike.manyAt (.mark .dot) nextPart (behind ++ follow) = .accepted others follow :=
    reads budget (Nat.le_refl _) follow closes
  simp [headerName, name, eat_more kind, tail, joinParts_eq]

/-- A declaration list does not begin like an entry point: behind its first variable there is no
parenthesis. -/
theorem startsWith_entryAhead_declarations {tokens : List Token} {steps : List Declaration}
    (declared : DeclarationsWritten tokens steps) (follow : Feed) :
    (tokens ++ follow).startsWith entryAhead = false := by
  obtain ⟨typed, head, tail, ends⟩ := declared
  rename_i type front middle behind semicolon first others
  cases typed with
  | const first kind => simp [entryAhead, Feed.startsWith, isKind, first]
  | plain kind =>
    cases head with
    | initial named assigns inner => simp [entryAhead, Feed.startsWith, isKind, assigns]
    | plain named =>
      have third : (behind ++ Feed.more semicolon follow).current.kind ≠ .mark .leftParen := by
        have listed : AtEither .comma .semicolon (behind ++ Feed.more semicolon follow) :=
          atEither_of_star tail ends
        rcases listed with same | same
        all_goals
          show Feed.kind _ ≠ _
          rw [same]
          decide
      simp [entryAhead, Feed.startsWith, isKind, third]

/-- What may stand before the entry point is recognised. -/
theorem atOpening_of_written {tokens : List Token} {opening : Opening}
    (writes : OpeningWritten tokens opening) (follow : Feed) :
    atOpening (tokens ++ follow) = true := by
  cases writes with
  | uses first next named ends => simp [atOpening, first]
  | includes first next opens named closes => simp [atOpening, first]
  | declares declared =>
    have ahead : atDeclaration (tokens ++ follow) = true := kind_of_declarations declared follow
    simp [atOpening, ahead, startsWith_entryAhead_declarations declared follow]

/-- What may stand before the entry point is read if the budget is large enough. -/
theorem eventually_opening {tokens : List Token} {found : Opening}
    (writes : OpeningWritten tokens found) :
    Eventually fun budget => ∀ follow : Feed,
      opening budget (tokens ++ follow) = .accepted found follow := by
  cases writes with
  | uses first next named ends =>
    refine .always fun budget follow => ?_
    simp [opening, openingOf, first, usingLine, word_more first, word_more next, name,
      eat_more named, mark_more ends]
  | @includes hash word left right header tokens first next opens named closes =>
    refine .always fun budget follow => ?_
    have reads : headerName (tokens ++ Feed.more right follow) = _ :=
      headerName_of_written named closes
    simp [opening, openingOf, first, includeLine, mark_more first, word_more next,
      mark_more opens, reads, mark_more closes]
  | declares declared =>
    refine (eventually_declarations declared).mono fun budget reads follow => ?_
    have declares := kind_of_declarations declared follow
    have back := reads follow
    rw [opening, openingOf, ParserLike.liftM_self, bind_apply, kind_apply,
      Outcome.accepted_andThen]
    generalize (tokens ++ follow).kind = kind at declares
    split
    · cases declares
    · cases declares
    · rw [bind_apply, back]
      rfl

/-- What stands before the entry point consists of pieces that are sorted by what they are. -/
theorem star_of_front {tokens includes usings : List Token} {before : List Declaration}
    (front : FrontWritten tokens includes usings before) :
    ∃ openings, Language.Star OpeningWritten tokens openings ∧
      includes = openings.filterMap Opening.header? ∧
      usings = openings.filterMap Opening.space? ∧ before = openings.flatMap Opening.steps := by
  induction front with
  | nil => exact ⟨[], .nil, rfl, rfl, rfl⟩
  | @uses word second space semicolon _ _ _ _ first next named ends tail ih =>
    obtain ⟨openings, star, rfl, rfl, rfl⟩ := ih
    exact ⟨.uses space :: openings, .cons (.uses first next named ends) star, rfl, rfl, rfl⟩
  | @includes hash word left right header _ _ _ _ _ first next opens named closes tail ih =>
    obtain ⟨openings, star, rfl, rfl, rfl⟩ := ih
    refine ⟨.includes header :: openings, ?_, rfl, rfl, rfl⟩
    have whole := Language.Star.cons (OpeningWritten.includes first next opens named closes) star
    simpa using whole
  | declares head tail ih =>
    obtain ⟨openings, star, rfl, rfl, rfl⟩ := ih
    exact ⟨_, .cons (.declares head) star, rfl, rfl, rfl⟩

/-- What stands before the entry point is read up to something else. -/
theorem eventually_openings {tokens : List Token} {openings : List Opening}
    (star : Language.Star OpeningWritten tokens openings) :
    Eventually fun budget => ∀ follow, atOpening follow = false →
      many atOpening (opening budget) (tokens ++ follow) = .accepted openings follow := by
  refine (eventually_many (fun _ => True) shrinks_opening ?_ star).mono
    fun budget reads follow stops => reads follow trivial stops
  intro front found writes
  refine ⟨fun behind => ⟨atOpening_of_written writes behind, trivial⟩, ?_⟩
  exact (eventually_opening writes).mono fun budget reads behind _ => reads behind

/-- The declarations behind the entry point are read up to something else. -/
theorem eventually_declarationLists {tokens : List Token} {lists : List (List Declaration)}
    (star : Language.Star DeclarationsWritten tokens lists) :
    Eventually fun budget => ∀ follow, atDeclaration follow = false →
      many atDeclaration (declarations (expr budget)) (tokens ++ follow) =
        .accepted lists follow := by
  refine (eventually_many (fun _ => True) shrinks_declarations ?_ star).mono
    fun budget reads follow stops => reads follow trivial stops
  intro front steps declared
  refine ⟨fun behind => ⟨kind_of_declarations declared behind, trivial⟩, ?_⟩
  exact (eventually_declarations declared).mono fun budget reads behind _ => reads behind

/-- An entry point begins like one. -/
theorem startsWith_entryAhead_entry {tokens : List Token} {entry : EntryPoint}
    (writes : EntryWritten tokens entry) (follow : Feed) :
    (tokens ++ follow).startsWith entryAhead = true := by
  obtain ⟨typed, kind, named, opens, -, -, -, -⟩ := writes
  simp [entryAhead, Feed.startsWith, isKind, typed, kind, named, opens]

/-- The entry point ends what stands before it. -/
theorem atOpening_of_entry {tokens : List Token} {entry : EntryPoint}
    (writes : EntryWritten tokens entry) (follow : Feed) :
    atOpening (tokens ++ follow) = false := by
  have ahead := startsWith_entryAhead_entry writes follow
  obtain ⟨typed, -, -, -, -, -, -, -⟩ := writes
  unfold atOpening
  rw [ahead]
  simp [typed]

/-- The entry point is read if the budget is large enough. -/
theorem eventually_entryPoint {tokens : List Token} {entry : EntryPoint}
    (writes : EntryWritten tokens entry) :
    Eventually fun budget => ∀ follow : Feed,
      entryPoint? budget (tokens ++ follow) = .accepted (some entry) follow := by
  have ahead := startsWith_entryAhead_entry writes
  obtain ⟨typed, kind, named, opens, closes, enters, inner, leaves⟩ := writes
  refine (eventually_braced enters (readBack_of_written inner) leaves).mono ?_
  intro budget reads follow
  have ahead := ahead follow
  rw [entryPoint?, entryPointOf?, ParserLike.liftM_self, bind_apply, ahead_apply, ahead]
  simp [entryPointOf, word_more typed, name, eat_more kind, mark_more opens, mark_more closes,
    reads follow]

/-- A declaration list declares something. -/
theorem steps_ne_nil {tokens : List Token} {steps : List Declaration}
    (declared : DeclarationsWritten tokens steps) : steps ≠ [] := by
  obtain ⟨-, head, -, -⟩ := declared
  cases head <;> simp

/-- A program is read as a whole if the budget is large enough. -/
theorem eventually_wholeProgram {tokens : List Token} {tree : Program}
    (writes : ProgramWritten tokens tree) (settled : tree.Settled) :
    Eventually fun budget => ∀ location,
      wholeProgram budget (tokens ++ Feed.eof location) = .accepted tree (.eof location) := by
  obtain @⟨front, middle, behind, _, _, _, _, after, head, main, tail⟩ := writes
  obtain ⟨openings, star, rfl, rfl, rfl⟩ := star_of_front head
  cases main with
  | none =>
    -- Without an entry point nothing may stand behind it.
    cases tail with
    | cons first others =>
      have empty := settled rfl
      simp [steps_ne_nil first] at empty
    | nil =>
      refine (eventually_openings star).mono fun budget reads location => ?_
      have back : many atOpening (openingOf (expr budget)) _ = _ := reads (.eof location) rfl
      have noEntry : entryPointOf? (expr budget) (statement budget) (.eof location) =
          .accepted none (.eof location) := rfl
      have noMore : many atDeclaration (declarations (expr budget)) (.eof location) =
          .accepted [] (.eof location) := many_stop rfl
      simp [wholeProgram, wholeProgramOf, programOf, back, noEntry, noMore]
  | some entry =>
    refine ((eventually_openings star).and ((eventually_entryPoint entry).and
      (eventually_declarationLists tail))).mono ?_
    rintro budget ⟨reads, readsEntry, readsTail⟩ location
    have back : many atOpening (openingOf (expr budget)) _ = _ :=
      reads _ (atOpening_of_entry entry (behind ++ Feed.eof location))
    have backEntry : entryPointOf? (expr budget) (statement budget) _ = _ :=
      readsEntry (behind ++ Feed.eof location)
    have backTail := readsTail (.eof location) rfl
    simp [wholeProgram, wholeProgramOf, programOf, back, backEntry, backTail]

/-- Declarations alone may stand before an entry point. -/
theorem front_of_declarations {tokens : List Token} {lists : List (List Declaration)}
    (star : Language.Star DeclarationsWritten tokens lists) :
    FrontWritten tokens [] [] lists.flatten := by
  induction star with
  | nil => exact .nil
  | cons first others ih => exact .declares first ih

/-- Declarations behind a front without an entry point belong to it. -/
theorem front_append {tokens includes usings : List Token} {before : List Declaration}
    (front : FrontWritten tokens includes usings before) {behind : List Token}
    {lists : List (List Declaration)} (tail : Language.Star DeclarationsWritten behind lists) :
    FrontWritten (tokens ++ behind) includes usings (before ++ lists.flatten) := by
  induction front with
  | nil => exact front_of_declarations tail
  | uses first next named ends inner ih => exact .uses first next named ends ih
  | includes first next opens named closes inner ih =>
    have whole := FrontWritten.includes first next opens named closes ih
    simpa using whole
  | declares head inner ih =>
    have whole := FrontWritten.declares head ih
    simpa using whole

/-- Every program is written with all its declarations before a missing entry point. -/
theorem exists_settled {tokens : List Token} {tree : Program}
    (writes : ProgramWritten tokens tree) :
    ∃ settled : Program, ProgramWritten tokens settled ∧ settled.Settled := by
  obtain @⟨front, _, behind, includes, usings, before, _, after, head, main, tail⟩ := writes
  cases main with
  | none =>
    have whole := ProgramWritten.mk (front_append head tail) .none .nil
    refine ⟨⟨includes, usings, before ++ after.flatten, none, []⟩, ?_, fun _ => rfl⟩
    simpa using whole
  | some entry =>
    refine ⟨_, .mk head (.some entry) tail, fun missing => ?_⟩
    cases missing

end Grammar

end Cpplet

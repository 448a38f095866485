import Cpplet.Proofs.Acceptance
import Cpplet.Proofs.Relocation

/-!
# Layout means nothing to the grammar

Every parser of the grammar is mirrored by itself: with the places of a feed moved it does the
same, at the moved places. Two sources with the same tokens have feeds that are one and the same
once the places are erased, so they are read as the same program or refused at the same token.
-/

namespace Cpplet

namespace Grammar

open Cpplet.Parser

variable {move : Location → Location}

/-- A constant is mirrored. -/
theorem mirrors_constant : Mirrors move constant constant := by
  refine mirrors_kind fun kind => ?_
  split
  rotate_right
  · exact mirrors_unexpected _
  all_goals exact mirrors_advance.bind fun token => mirrors_pure rfl

section Expressions

variable {expr operand : Parser Expr}

/-- What needs no parentheses is mirrored. -/
theorem mirrors_primary (inner : Mirrors move expr expr) :
    Mirrors move (primary expr) (primary expr) := by
  refine mirrors_kind fun kind => ?_
  split
  · exact (mirrors_mark _).bind fun _ => inner.bind fun _ => (mirrors_mark _).bind fun _ =>
      mirrors_pure rfl
  · exact (mirrors_eat _).bind fun _ => mirrors_pure rfl
  rotate_right
  · exact mirrors_unexpected _
  all_goals exact mirrors_constant

/-- A primary expression with or without a step behind it is mirrored. -/
theorem mirrors_stepped (inner : Mirrors move expr expr) :
    Mirrors move (stepped expr) (stepped expr) := by
  refine (mirrors_primary inner).bind fun operand => mirrors_kind fun kind => ?_
  exact mirrors_ite (mirrors_advance.bind fun _ => mirrors_pure rfl) (mirrors_pure rfl)

/-- An expression that may begin with a step or a sign is mirrored. -/
theorem mirrors_signed (inner : Mirrors move expr expr) (tight : Mirrors move operand operand) :
    Mirrors move (signed expr operand) (signed expr operand) := by
  refine mirrors_kind fun kind => mirrors_ite ?_ (mirrors_ite ?_ (mirrors_stepped inner))
  · exact mirrors_advance.bind fun _ => (mirrors_stepped inner).bind fun _ => mirrors_pure rfl
  · exact mirrors_advance.bind fun _ => tight.bind fun _ => mirrors_pure rfl

/-- An operand of a binary operator is mirrored. -/
theorem mirrors_castOr (inner : Mirrors move expr expr) (tight : Mirrors move operand operand) :
    Mirrors move (castOr expr operand) (castOr expr operand) := by
  unfold castOr
  have castBlind : ∀ test ∈ castAhead, ∀ token : Token,
      test (token.relocate move) = test token := by
    simp [castAhead, isKind, isTypeWord, Token.relocate]
  have callBlind : ∀ test ∈ callAhead, ∀ token : Token,
      test (token.relocate move) = test token := by
    simp [callAhead, isKind, isTypeWord, Token.relocate]
  refine mirrors_ahead castBlind ?_ (mirrors_ahead callBlind ?_ (mirrors_signed inner tight))
  · exact (mirrors_mark _).bind fun _ => (mirrors_satisfy _ _).bind fun _ =>
      (mirrors_mark _).bind fun _ => tight.bind fun _ => mirrors_pure rfl
  · exact (mirrors_satisfy _ _).bind fun _ => (mirrors_mark _).bind fun _ => inner.bind fun _ =>
      (mirrors_mark _).bind fun _ => mirrors_pure rfl

/-- Operands are joined from the left wherever they stand. -/
theorem joinLeft_relocate (first : Expr) (others : List (Token × Expr)) :
    joinLeft (Placed.relocate move first) (Placed.relocate move others) =
      Placed.relocate move (joinLeft first others) := by
  induction others generalizing first with
  | nil => rfl
  | cons other others ih => exact ih (.binary first other.1 other.2)

/-- Operands with operators of several levels between them are mirrored. -/
theorem mirrors_ladder (tight : Mirrors move operand operand) (levels : List (List Mark)) :
    Mirrors move (ladder operand levels) (ladder operand levels) := by
  induction levels with
  | nil => exact tight
  | cons marks tighter ih =>
    have one : Mirrors move (operation (ladder operand tighter))
        (operation (ladder operand tighter)) :=
      mirrors_advance.bind fun _ => ih.bind fun _ => mirrors_pure rfl
    have blind : ∀ feed : Feed, isOneOf marks (feed.relocate move).kind = isOneOf marks feed.kind :=
      fun feed => by rw [Feed.kind_relocate]
    refine ih.bind fun first => (mirrors_many blind one).bind fun others => ?_
    exact mirrors_pure (joinLeft_relocate first others)

/-- An expression with binary operators, and a choice behind it, is mirrored. -/
theorem mirrors_conditional (inner : Mirrors move expr expr)
    (tight : Mirrors move operand operand) :
    Mirrors move (conditional expr operand) (conditional expr operand) := by
  refine (mirrors_ladder tight _).bind fun condition => mirrors_kind fun kind => ?_
  refine mirrors_ite ?_ (mirrors_pure rfl)
  exact (mirrors_mark _).bind fun _ => inner.bind fun _ => (mirrors_mark _).bind fun _ =>
    inner.bind fun _ => mirrors_pure rfl

end Expressions

/-- Expressions and operands are mirrored with every budget. -/
theorem mirrors_expr_operand (budget : Nat) :
    Mirrors move (expr budget) (expr budget) ∧ Mirrors move (operand budget) (operand budget) := by
  induction budget with
  | zero =>
    rw [expr, operand]
    exact ⟨mirrors_tooDeep _, mirrors_tooDeep _⟩
  | succ budget ih =>
    obtain ⟨inner, tight⟩ := ih
    rw [expr, operand]
    exact ⟨mirrors_conditional inner tight, mirrors_castOr inner tight⟩

/-- Expressions are mirrored. -/
theorem mirrors_expr (budget : Nat) : Mirrors move (expr budget) (expr budget) :=
  (mirrors_expr_operand budget).1

/-- Sums are mirrored. -/
theorem mirrors_additive (budget : Nat) : Mirrors move (additive budget) (additive budget) :=
  mirrors_ladder (mirrors_expr_operand budget).2 _

/-- Whether a declaration list begins does not depend on places. -/
theorem atDeclaration_relocate (feed : Feed) :
    atDeclaration (feed.relocate move) = atDeclaration feed := by
  unfold atDeclaration
  rw [Feed.kind_relocate]

/-- The type of a declaration list is mirrored. -/
theorem mirrors_typeName : Mirrors move typeName typeName := by
  refine mirrors_kind fun kind => mirrors_ite ?_ ?_
  · exact (mirrors_word _).bind fun _ => (mirrors_satisfy _ _).bind fun _ => mirrors_pure rfl
  · exact (mirrors_satisfy _ _).bind fun _ => mirrors_pure rfl

section Statements

variable {expr : Parser Expr} {statement : Parser Stmt}

/-- One declared variable is mirrored by that variable with its type at another place. -/
theorem mirrors_declarator (inner : Mirrors move expr expr) (type : TypeName) :
    Mirrors move (declarator expr type) (declarator expr (Placed.relocate move type)) := by
  refine (mirrors_eat _).bind fun target => mirrors_kind fun kind => mirrors_ite ?_ ?_
  · exact (mirrors_mark _).bind fun _ => inner.bind fun _ => mirrors_pure rfl
  · exact mirrors_pure rfl

/-- A declaration list is mirrored. -/
theorem mirrors_declarations (inner : Mirrors move expr expr) :
    Mirrors move (declarations expr) (declarations expr) := by
  refine mirrors_typeName.bind fun type => ?_
  have one := mirrors_declarator inner type
  have next : Mirrors move (nextDeclarator expr type)
      (nextDeclarator expr (Placed.relocate move type)) :=
    (mirrors_mark _).bind fun _ => one
  refine one.bind fun first => (mirrors_manyAt _ next).bind fun others => ?_
  refine (mirrors_mark _).bind fun _ => mirrors_pure ?_
  rw [Placed.relocate_append, Placed.relocate_flatten]

/-- An assignment or an expression is mirrored. -/
theorem mirrors_assignmentOr (inner : Mirrors move expr expr) :
    Mirrors move (assignmentOr expr) (assignmentOr expr) := by
  unfold assignmentOr
  have blind : ∀ test ∈ assignmentAhead, ∀ token : Token,
      test (token.relocate move) = test token := by
    simp [assignmentAhead, isKind, Token.relocate]
  refine mirrors_ahead blind ?_ (inner.bind fun _ => mirrors_pure rfl)
  exact (mirrors_eat _).bind fun _ => (mirrors_satisfy _ _).bind fun _ => inner.bind fun _ =>
    mirrors_pure rfl

/-- A simple statement is mirrored. -/
theorem mirrors_simple (inner : Mirrors move expr expr) :
    Mirrors move (simple expr) (simple expr) := by
  refine mirrors_kind fun kind => mirrors_ite ?_ ?_
  · exact (mirrors_mark _).bind fun _ => mirrors_pure rfl
  · exact (mirrors_assignmentOr inner).bind fun _ => (mirrors_mark _).bind fun _ =>
      mirrors_pure rfl

/-- A declaration step among statements is moved as it is. -/
theorem toStmt_relocate (steps : List Declaration) :
    (Placed.relocate move steps).map Declaration.toStmt =
      Placed.relocate move (steps.map Declaration.toStmt) := by
  induction steps with
  | nil => rfl
  | cons step steps ih =>
    have first : (Placed.relocate move step).toStmt = step.toStmt.relocate move := by
      cases step <;> rfl
    show (Placed.relocate move step).toStmt ::
      (Placed.relocate move steps).map Declaration.toStmt = _
    rw [ih, first]
    rfl

/-- The items of a block are mirrored. -/
theorem mirrors_items (inner : Mirrors move expr expr) (below : Mirrors move statement statement)
    (closers : List Kind) :
    Mirrors move (items expr statement closers) (items expr statement closers) := by
  have one : Mirrors move (item expr statement) (item expr statement) := by
    refine mirrors_choose atDeclaration_relocate ?_ (below.bind fun _ => mirrors_pure rfl)
    exact (mirrors_declarations inner).bind fun steps => mirrors_pure (toStmt_relocate steps)
  have blind : ∀ feed : Feed, before closers (feed.relocate move) = before closers feed := by
    intro feed
    unfold before
    rw [Feed.kind_relocate]
  refine (mirrors_many blind one).bind fun groups => mirrors_pure ?_
  exact (Placed.relocate_flatten move groups).symm

/-- Items between braces are mirrored. -/
theorem mirrors_braced (inner : Mirrors move expr expr) (below : Mirrors move statement statement) :
    Mirrors move (braced expr statement) (braced expr statement) :=
  (mirrors_mark _).bind fun _ => (mirrors_items inner below _).bind fun _ =>
    (mirrors_mark _).bind fun _ => mirrors_pure rfl

/-- An expression between parentheses is mirrored. -/
theorem mirrors_parenthesized (inner : Mirrors move expr expr) :
    Mirrors move (parenthesized expr) (parenthesized expr) :=
  (mirrors_mark _).bind fun _ => inner.bind fun _ => (mirrors_mark _).bind fun _ =>
    mirrors_pure rfl

/-- An `if` statement is mirrored. -/
theorem mirrors_branch (inner : Mirrors move expr expr) (below : Mirrors move statement statement) :
    Mirrors move (branch expr statement) (branch expr statement) := by
  refine (mirrors_word _).bind fun word => (mirrors_parenthesized inner).bind fun condition =>
    below.bind fun body => mirrors_kind fun kind => mirrors_ite ?_ (mirrors_pure rfl)
  exact (mirrors_word _).bind fun _ => below.bind fun _ => mirrors_pure rfl

/-- A loop with a start, a test and an action is mirrored. -/
theorem mirrors_forLoop (inner : Mirrors move expr expr)
    (below : Mirrors move statement statement) :
    Mirrors move (forLoop expr statement) (forLoop expr statement) := by
  have start : Mirrors move (forStart expr) (forStart expr) :=
    mirrors_choose atDeclaration_relocate
      ((mirrors_declarations inner).bind fun _ => mirrors_pure rfl)
      ((mirrors_simple inner).bind fun _ => mirrors_pure rfl)
  have action : Mirrors move (forAction expr) (forAction expr) :=
    mirrors_kind fun _ => mirrors_ite (mirrors_pure rfl) (mirrors_assignmentOr inner)
  exact (mirrors_word _).bind fun _ => (mirrors_mark _).bind fun _ => start.bind fun _ =>
    (mirrors_simple inner).bind fun _ => action.bind fun _ => (mirrors_mark _).bind fun _ =>
      below.bind fun _ => mirrors_pure rfl

/-- A `return` statement is mirrored. -/
theorem mirrors_returnBack (inner : Mirrors move expr expr) :
    Mirrors move (returnBack expr) (returnBack expr) := by
  refine (mirrors_word _).bind fun word => mirrors_kind fun kind => mirrors_ite ?_ ?_
  · exact (mirrors_mark _).bind fun _ => mirrors_pure rfl
  · exact inner.bind fun _ => (mirrors_mark _).bind fun _ => mirrors_pure rfl

/-- A choice between cases is mirrored. -/
theorem mirrors_switch (inner : Mirrors move expr expr) (below : Mirrors move statement statement) :
    Mirrors move (switch expr statement) (switch expr statement) := by
  have body : Mirrors move (caseBody expr statement) (caseBody expr statement) :=
    mirrors_items inner below _
  have label : Mirrors move caseLabel caseLabel :=
    mirrors_kind fun _ => mirrors_ite ((mirrors_eat _).bind fun _ => mirrors_pure rfl)
      mirrors_constant
  have one : Mirrors move (case expr statement) (case expr statement) := by
    refine (mirrors_word _).bind fun _ => label.bind fun label => (mirrors_mark _).bind fun _ =>
      body.bind fun body => mirrors_pure ?_
    show _ = Case.mk (label.relocate move) (Stmt.relocateAll move body)
    rw [Stmt.relocateAll_eq]
    rfl
  have fallback : Mirrors move (fallback expr statement) (fallback expr statement) := by
    refine mirrors_kind fun kind => mirrors_ite ?_ (mirrors_pure rfl)
    exact (mirrors_word _).bind fun _ => (mirrors_mark _).bind fun _ => body.bind fun _ =>
      mirrors_pure rfl
  refine (mirrors_word _).bind fun word => (mirrors_parenthesized inner).bind fun condition =>
    (mirrors_mark _).bind fun _ => (mirrors_manyAt _ one).bind fun cases =>
      fallback.bind fun fallback => (mirrors_mark _).bind fun _ => mirrors_pure ?_
  show _ = Stmt.switch (word.relocate move) (condition.relocate move)
    (Case.relocateAll move cases) (Stmt.relocateFallback move fallback)
  rw [Case.relocateAll_eq, Stmt.relocateFallback_eq]
  rfl

/-- A print statement is mirrored. -/
theorem mirrors_print {additive : Parser Expr} (inner : Mirrors move additive additive) :
    Mirrors move (print additive) (print additive) := by
  have one : Mirrors move (printItem additive) (printItem additive) :=
    (mirrors_mark _).bind fun _ => inner
  exact (mirrors_word _).bind fun _ => one.bind fun _ => (mirrors_manyAt _ one).bind fun _ =>
    (mirrors_mark _).bind fun _ => mirrors_pure rfl

end Statements

/-- Statements are mirrored with every budget. -/
theorem mirrors_statement (budget : Nat) :
    Mirrors move (statement budget) (statement budget) := by
  induction budget with
  | zero => exact mirrors_tooDeep _
  | succ budget below =>
    have inner : Mirrors move (expr budget) (expr budget) := mirrors_expr budget
    have condition := mirrors_parenthesized inner
    rw [statement]
    refine mirrors_kind fun kind => ?_
    split
    · exact mirrors_branch inner below
    · refine (mirrors_braced inner below).bind fun found => ?_
      obtain ⟨brace, body⟩ := found
      refine mirrors_pure ?_
      show _ = Stmt.block (brace.relocate move) (Stmt.relocateAll move body)
      rw [Stmt.relocateAll_eq]
      rfl
    · exact (mirrors_word _).bind fun _ => condition.bind fun _ => below.bind fun _ =>
        mirrors_pure rfl
    · exact (mirrors_word _).bind fun _ => below.bind fun _ => (mirrors_word _).bind fun _ =>
        condition.bind fun _ => (mirrors_mark _).bind fun _ => mirrors_pure rfl
    · exact mirrors_forLoop inner below
    · exact mirrors_returnBack inner
    · exact (mirrors_word _).bind fun _ => (mirrors_mark _).bind fun _ => mirrors_pure rfl
    · exact (mirrors_word _).bind fun _ => (mirrors_mark _).bind fun _ => mirrors_pure rfl
    · exact mirrors_switch inner below
    · exact mirrors_print (mirrors_additive budget)
    · exact (mirrors_simple inner).bind fun _ => mirrors_pure rfl

/-- The parts of a dotted name are joined wherever they stand. -/
theorem joinParts_relocate (first : Token) (others : List Token) :
    joinParts (Placed.relocate move first) (Placed.relocate move others) =
      Placed.relocate move (joinParts first others) := by
  unfold joinParts
  have text : (Placed.relocate move others).foldl
      (fun header part => header ++ "." ++ partText part) (partText first) =
        others.foldl (fun header part => header ++ "." ++ partText part) (partText first) :=
    List.foldl_map
  exact congrArg (fun joined => Token.mk .name (some (.name joined)) (move first.location)) text

/-- The tokens `int main (` are recognised wherever they stand. -/
theorem entryAhead_blind : ∀ test ∈ entryAhead, ∀ token : Token,
    test (token.relocate move) = test token := by
  intro test member token
  simp only [entryAhead, List.mem_cons, List.not_mem_nil, or_false] at member
  rcases member with rfl | rfl | rfl
  all_goals rfl

/-- Whether something before the entry point begins does not depend on places. -/
theorem atOpening_relocate (feed : Feed) : atOpening (feed.relocate move) = atOpening feed := by
  unfold atOpening
  rw [Feed.kind_relocate, atDeclaration_relocate, Feed.startsWith_relocate move entryAhead_blind]

/-- Something that stands before the entry point is mirrored. -/
theorem mirrors_opening (budget : Nat) : Mirrors move (opening budget) (opening budget) := by
  have part : Mirrors move nextPart nextPart := (mirrors_mark _).bind fun _ => mirrors_eat _
  have header : Mirrors move headerName headerName :=
    (mirrors_eat _).bind fun first => (mirrors_manyAt _ part).bind fun others =>
      mirrors_pure (joinParts_relocate first others)
  refine mirrors_kind fun kind => ?_
  split
  · exact (mirrors_word _).bind fun _ => (mirrors_word _).bind fun _ => (mirrors_eat _).bind
      fun _ => (mirrors_mark _).bind fun _ => mirrors_pure rfl
  · exact (mirrors_mark _).bind fun _ => (mirrors_word _).bind fun _ => (mirrors_mark _).bind
      fun _ => header.bind fun _ => (mirrors_mark _).bind fun _ => mirrors_pure rfl
  · exact (mirrors_declarations (mirrors_expr budget)).bind fun _ => mirrors_pure rfl

/-- The entry point is mirrored where there is one. -/
theorem mirrors_entryPoint? (budget : Nat) :
    Mirrors move (entryPoint? budget) (entryPoint? budget) := by
  have body := mirrors_braced (@mirrors_expr move budget) (mirrors_statement budget)
  have entry : Mirrors move (entryPoint budget) (entryPoint budget) :=
    (mirrors_word _).bind fun _ => (mirrors_eat _).bind fun _ => (mirrors_mark _).bind fun _ =>
      (mirrors_mark _).bind fun _ => body.bind fun _ => mirrors_pure rfl
  unfold entryPoint?
  exact mirrors_ahead entryAhead_blind (entry.bind fun _ => mirrors_pure rfl) (mirrors_pure rfl)

/-- A whole program is mirrored. -/
theorem mirrors_wholeProgram (budget : Nat) :
    Mirrors move (wholeProgram budget) (wholeProgram budget) := by
  have behind := mirrors_many (@atDeclaration_relocate move)
    (mirrors_declarations (mirrors_expr budget))
  have program : Mirrors move (program budget) (program budget) := by
    refine (mirrors_many atOpening_relocate (mirrors_opening budget)).bind fun openings =>
      (mirrors_entryPoint? budget).bind fun entry => behind.bind fun after => mirrors_pure ?_
    have headers := Placed.relocate_filterMap move Opening.header?
      (fun opening => by cases opening <;> rfl) openings
    have spaces := Placed.relocate_filterMap move Opening.space?
      (fun opening => by cases opening <;> rfl) openings
    have steps := Placed.relocate_flatMap move Opening.steps
      (fun opening => by cases opening <;> rfl) openings
    rw [← headers, ← spaces, ← steps, ← Placed.relocate_flatten]
    rfl
  exact program.bind fun tree => mirrors_kind fun kind =>
    mirrors_ite (mirrors_pure rfl) (mirrors_unexpected _)

/-- A refused file is refused at the token that leaves as many behind it as were left. -/
theorem location_of_rejected {budget : Nat} {body : List Token} {location : Location}
    {error : SyntaxError} {stop : Feed}
    (rejected : wholeProgram budget (body ++ Feed.eof location) =
      .rejected (.grammatical error) stop) :
    ∃ token, (body ++ [.eof location])[body.length - stop.size]? = some token ∧
      token.location = error.location := by
  have fits := (reads_wholeProgram budget).fits (body ++ Feed.eof location)
  rw [rejected] at fits
  obtain ⟨front, split, -, bears, -⟩ := fits
  have sizes := congrArg Feed.size split
  rw [Feed.size_append, Feed.size_append] at sizes
  have index : body.length - stop.size = front.length := by
    have none : (Feed.eof location).size = 0 := rfl
    omega
  have listed := congrArg Feed.tokens split
  rw [Feed.tokens_append, Feed.tokens_append] at listed
  obtain ⟨behind, tokens⟩ := stop.tokens_eq_current_cons
  refine ⟨stop.current, ?_, bears.symm⟩
  have whole : body ++ [.eof location] = front ++ stop.current :: behind := by
    rw [← tokens]
    exact listed
  rw [index, whole, List.getElem?_append_right (Nat.le_refl _), Nat.sub_self]
  rfl

end Grammar

/-- What a token says apart from its place. -/
def Token.content (token : Token) : Kind × Option Value := (token.kind, token.value)

/-- Tokens that say the same are the same once their places are erased. -/
theorem map_erase_of_content {tokens others : List Token}
    (same : tokens.map Token.content = others.map Token.content) :
    tokens.map Placed.erase = others.map Placed.erase := by
  have rebuilt : (Placed.erase : Token → Token) =
      (fun content => ⟨content.1, content.2, .start⟩) ∘ Token.content := rfl
  rw [rebuilt, ← List.map_map, ← List.map_map, same]

open Grammar

/-- Feeds of files whose tokens say the same are the same once their places are erased. -/
theorem relocate_eq_of_content {body other : List Token}
    (same : body.map Token.content = other.map Token.content) (location locationOther : Location) :
    (body ++ Feed.eof location).relocate (fun _ => .start) =
      (other ++ Feed.eof locationOther).relocate (fun _ => .start) := by
  rw [Feed.relocate_append, Feed.relocate_append]
  exact congrArg (· ++ Feed.eof .start) (map_erase_of_content same)

/-- Parsing a source that can be listed is parsing its tokens, and an error is no lexical one. -/
theorem parse_of_listed {source : String} {body : List Token} {location : Location}
    (listed : tokenize source = .ok (body ++ [.eof location]))
    (read : Feed.ofCursor (.ofSource source) = .ok (body ++ Feed.eof location)) :
    (∀ program rest, wholeProgram nestingLimit (body ++ Feed.eof location) =
        .accepted program rest → parse source = .ok program) ∧
    ∀ error stop, wholeProgram nestingLimit (body ++ Feed.eof location) = .rejected error stop →
      ∃ breach, error = .grammatical breach ∧ parse source = .error (.grammatical breach) := by
  have parsed : parse source = parseFeed nestingLimit (body ++ Feed.eof location) := by
    rw [parse, parseWithin, read]
  constructor
  · intro program rest accepted
    rw [parsed, parseFeed, accepted]
  · intro error stop rejected
    have failed : parse source = .error error := by rw [parsed, parseFeed, rejected]
    cases error with
    | grammatical breach => exact ⟨breach, rfl, failed⟩
    | lexical error =>
      rw [tokenize_of_lexical failed] at listed
      cases listed

/-- Layout means nothing to the grammar. Two sources that can be read, and whose tokens agree one
by one in kind and value, are either both parsed, as programs that are the same once all places
are erased, or both refused with the same message, at tokens with the same number. -/
theorem parse_ignores_layout {first second : String} {tokens others : List Token}
    (listed : tokenize first = .ok tokens) (listedOther : tokenize second = .ok others)
    (same : tokens.map Token.content = others.map Token.content) :
    (∃ program other, parse first = .ok program ∧ parse second = .ok other ∧
      Placed.erase program = Placed.erase other) ∨
    ∃ error failure : SyntaxError, parse first = .error (.grammatical error) ∧
      parse second = .error (.grammatical failure) ∧
      error.breach.message = failure.breach.message ∧
      ∃ (k : Nat) (token found : Token), tokens[k]? = some token ∧ others[k]? = some found ∧
        token.location = error.location ∧ found.location = failure.location := by
  obtain ⟨body, location, read, rfl⟩ := feed_of_tokenize listed
  obtain ⟨other, locationOther, readOther, rfl⟩ := feed_of_tokenize listedOther
  rw [List.map_append, List.map_append] at same
  have contents : body.map Token.content = other.map Token.content :=
    List.append_inj_left' same rfl
  have lengths : body.length = other.length := by
    simpa using congrArg List.length contents
  obtain ⟨parsed, failed⟩ := parse_of_listed listed read
  obtain ⟨parsedOther, failedOther⟩ := parse_of_listed listedOther readOther
  have alike : (wholeProgram nestingLimit (body ++ Feed.eof location)).relocate (fun _ => .start) =
      (wholeProgram nestingLimit (other ++ Feed.eof locationOther)).relocate (fun _ => .start) := by
    rw [← mirrors_wholeProgram nestingLimit, ← mirrors_wholeProgram nestingLimit,
      relocate_eq_of_content contents]
  rcases Outcome.cases_of_relocate_eq alike with
    ⟨program, found, rest, last, accepted, acceptedOther, programs⟩ |
      ⟨error, failure, stop, last, rejected, rejectedOther, errors, stops⟩
  · exact .inl ⟨program, found, parsed _ _ accepted, parsedOther _ _ acceptedOther, programs⟩
  · obtain ⟨breach, rfl, refused⟩ := failed _ _ rejected
    obtain ⟨breachOther, rfl, refusedOther⟩ := failedOther _ _ rejectedOther
    have messages := SyntaxError.message_of_relocate_eq (SourceError.grammatical.inj errors)
    have sizes : stop.size = last.size := by
      simpa using congrArg Feed.size stops
    obtain ⟨token, here, place⟩ := location_of_rejected rejected
    obtain ⟨found, there, placeOther⟩ := location_of_rejected rejectedOther
    rw [← lengths, ← sizes] at there
    exact .inr ⟨breach, breachOther, refused, refusedOther, messages, _, token, found, here, there,
      place, placeOther⟩

/-- The sources `int x;` and `int/**/x`, with the semicolon on a second line, are one program. -/
theorem parse_ignores_layout_comment :
    ∃ program other, parse "int x;" = .ok program ∧ parse "int/**/x\n;" = .ok other ∧
      Placed.erase program = Placed.erase other := by
  obtain ⟨listed, listedOther⟩ :
      tokenize "int x;" = .ok
        [⟨.keyword .intWord, some (.spelling "int"), ⟨1, 1⟩⟩, ⟨.name, some (.name "x"), ⟨1, 5⟩⟩,
          ⟨.mark .semicolon, some (.spelling ";"), ⟨1, 6⟩⟩, .eof ⟨1, 7⟩] ∧
      tokenize "int/**/x\n;" = .ok
        [⟨.keyword .intWord, some (.spelling "int"), ⟨1, 1⟩⟩, ⟨.name, some (.name "x"), ⟨1, 8⟩⟩,
          ⟨.mark .semicolon, some (.spelling ";"), ⟨2, 1⟩⟩, .eof ⟨2, 2⟩] :=
    ⟨by cbv, by cbv⟩
  have parsed : ∃ program, parse "int x;" = .ok program := ⟨_, by cbv⟩
  rcases parse_ignores_layout listed listedOther rfl with both | ⟨error, -, failed, -⟩
  · exact both
  · obtain ⟨program, parsed⟩ := parsed
    rw [parsed] at failed
    cases failed

end Cpplet

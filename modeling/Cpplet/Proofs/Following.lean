import Cpplet.Proofs.Likeness
import Cpplet.Proofs.Programs

/-!
# A run with a larger budget follows one with a smaller

Every parser of the grammar is followed by itself with the same or a larger budget, over feeds
that look alike. Only four questions look further than the lookahead: whether a cast, a call, an
assignment or the entry point begins. Where their answers differ, the likeness ends at the next
token or at the one behind it, and either way to go on passes that token.
-/

namespace Cpplet

namespace Comparison

/-- Whether looking ahead tells nothing apart that is not left with the next tokens. -/
structure Discreet (comparison : Comparison) : Prop where
  /-- A cast in parentheses is seen in both feeds, or the parenthesis is the last thing compared. -/
  cast : ∀ {feed other : Feed}, comparison.like feed other →
    other.startsWith Grammar.castAhead = feed.startsWith Grammar.castAhead ∨
      feed.kind = .mark .leftParen ∧ comparison.Fleeting feed
  /-- A type before a parenthesis is seen in both feeds. -/
  call : ∀ {feed other : Feed}, comparison.like feed other →
    other.startsWith Grammar.callAhead = feed.startsWith Grammar.callAhead
  /-- An assignment is seen in both feeds, or its target is the last thing compared. -/
  assignment : ∀ {feed other : Feed}, comparison.like feed other →
    other.startsWith Grammar.assignmentAhead = feed.startsWith Grammar.assignmentAhead ∨
      feed.kind = .name ∧ comparison.Fleeting feed
  /-- An entry point is seen in both feeds, or its name is the last thing compared. -/
  entry : ∀ {feed other : Feed}, comparison.like feed other →
    other.startsWith Grammar.entryAhead = feed.startsWith Grammar.entryAhead ∨
      feed.kind = .keyword .intWord ∧
        ∃ rest, feed.next = .ok rest ∧ rest.kind = .name ∧ comparison.Fleeting rest

end Comparison

namespace Grammar

open Cpplet.Parser Comparison

variable {comparison : Comparison}

/-- A constant is followed. -/
theorem follows_constant : comparison.Follows constant constant := by
  refine follows_kind.bind fun kind => ?_
  split
  rotate_right
  · exact follows_unexpected _
  all_goals exact follows_advance.bind fun token => follows_pure _

/-- Passing the last token that is compared, where its kind is asked for, is lost. -/
theorem lost_eat {feed : Feed} {kind : Kind} (same : feed.kind = kind)
    (fleeting : comparison.Fleeting feed) : comparison.Lost (eat kind feed) := by
  unfold eat
  rw [satisfy_of_test (by simp [same])]
  exact lost_advance fleeting

section Expressions

variable {expr expr' operand operand' : Parser Expr}

/-- What needs no parentheses is followed. -/
theorem follows_primary (inner : comparison.Follows expr expr') :
    comparison.Follows (primary expr) (primary expr') := by
  refine follows_kind.bind fun kind => ?_
  split
  · exact (follows_mark _).bind fun _ => inner.bind fun _ => (follows_mark _).bind fun _ =>
      follows_pure _
  · exact (follows_eat _).bind fun _ => follows_pure _
  rotate_right
  · exact follows_unexpected _
  all_goals exact follows_constant

/-- A step behind an operand, or none, is followed. -/
theorem follows_stepBehind (tree : Expr) :
    comparison.Follows
      (do if isOneOf stepMarks (← kind) then return .postStep tree (← advance) else return tree)
      (do if isOneOf stepMarks (← kind) then return .postStep tree (← advance) else return tree) :=
  follows_kind.bind fun _ =>
    follows_ite (follows_advance.bind fun _ => follows_pure _) (follows_pure _)

/-- A primary expression with or without a step behind it is followed. -/
theorem follows_stepped (inner : comparison.Follows expr expr') :
    comparison.Follows (stepped expr) (stepped expr') :=
  (follows_primary inner).bind follows_stepBehind

/-- An expression that may begin with a step or a sign is followed. -/
theorem follows_signed (inner : comparison.Follows expr expr')
    (tight : comparison.Follows operand operand') :
    comparison.Follows (signed expr operand) (signed expr' operand') := by
  refine follows_kind.bind fun kind => follows_ite ?_ (follows_ite ?_ (follows_stepped inner))
  · exact follows_advance.bind fun _ => (follows_stepped inner).bind fun _ => follows_pure _
  · exact follows_advance.bind fun _ => tight.bind fun _ => follows_pure _

/-- Whether a feed begins with what looking ahead may be wrong about in an expression, and this
is the last token that is compared. -/
def Parting (comparison : Comparison) (feed : Feed) : Prop :=
  (feed.kind = .mark .leftParen ∨ feed.kind = .name) ∧ comparison.Fleeting feed

/-- What needs no parentheses passes the last token that is compared. -/
theorem lost_primary (narrows : Narrows expr) {feed : Feed} (parting : Parting comparison feed) :
    comparison.Lost (primary expr feed) := by
  obtain ⟨start, fleeting⟩ := parting
  rw [primary, ParserLike.liftM_self, bind_apply, kind_apply, Outcome.accepted_andThen]
  rcases start with same | same
  · simp only [same, bind_apply]
    refine (lost_eat same fleeting).andThen fun _ => narrows.bind fun _ => ?_
    exact (narrows_of_reads (reads_mark .rightParen)).bind fun _ => narrows_pure _
  · simp only [same, bind_apply]
    exact (lost_eat same fleeting).andThen fun _ => narrows_pure _

/-- So does an expression that may begin with a step or a sign. -/
theorem lost_signed (narrows : Narrows expr) {feed : Feed} (parting : Parting comparison feed) :
    comparison.Lost (signed expr operand feed) := by
  have noStep : isOneOf stepMarks feed.kind = false := by
    rcases parting.1 with same | same
    all_goals
      rw [same]
      decide
  have noSign : isOneOf signMarks feed.kind = false := by
    rcases parting.1 with same | same
    all_goals
      rw [same]
      decide
  have first : signed expr operand feed = stepped expr feed := by
    simp [signed, noStep, noSign]
  rw [first, stepped, bind_apply]
  exact (lost_primary narrows parting).andThen fun value =>
    (@follows_stepBehind comparison value).narrows

/-- So does an operand, whether it is taken for a cast or not. -/
theorem lost_castOr (narrows : Narrows expr) (narrowsOperand : Narrows operand) {feed : Feed}
    (parting : Parting comparison feed) : comparison.Lost (castOr expr operand feed) := by
  have noType : feed.current.kind.isType = false := by
    show feed.kind.isType = false
    rcases parting.1 with same | same
    all_goals
      rw [same]
      rfl
  have noCall : feed.startsWith callAhead = false := by
    simp [callAhead, Feed.startsWith, isTypeWord, noType]
  rw [castOr, ParserLike.liftM_self, bind_apply, ahead_apply, Outcome.accepted_andThen]
  by_cases casts : feed.startsWith castAhead = true
  · rw [if_pos casts, bind_apply]
    have same : feed.kind = .mark .leftParen := by
      rcases parting.1 with same | same
      · exact same
      · have other : feed.current.kind ≠ .mark .leftParen := by
          show feed.kind ≠ _
          rw [same]
          decide
        simp [castAhead, Feed.startsWith, isKind, other] at casts
    refine (lost_eat same parting.2).andThen fun _ => ?_
    exact (narrows_of_reads reads_typeWord).bind fun _ =>
      (narrows_of_reads (reads_mark .rightParen)).bind fun _ =>
        narrowsOperand.bind fun _ => narrows_pure _
  · rw [if_neg casts, ParserLike.liftM_self, bind_apply, ahead_apply, Outcome.accepted_andThen,
      noCall]
    exact lost_signed narrows parting

/-- An operand of a binary operator is followed. -/
theorem follows_castOr (discreet : comparison.Discreet) (inner : comparison.Follows expr expr')
    (tight : comparison.Follows operand operand') :
    comparison.Follows (castOr expr operand) (castOr expr' operand') := by
  unfold castOr
  refine follows_ahead (fun feed other alike => ?_) ?_
    (follows_ahead (fun feed other alike => .inl (discreet.call alike)) ?_
      (follows_signed inner tight))
  · refine (discreet.cast alike).imp_right fun ⟨same, fleeting⟩ => ?_
    exact lost_castOr inner.narrows tight.narrows ⟨.inl same, fleeting⟩
  · exact (follows_mark _).bind fun _ => (follows_satisfy _ _).bind fun _ =>
      (follows_mark _).bind fun _ => tight.bind fun _ => follows_pure _
  · exact (follows_satisfy _ _).bind fun _ => (follows_mark _).bind fun _ => inner.bind fun _ =>
      (follows_mark _).bind fun _ => follows_pure _

/-- Asking whether the lookahead is of some kinds gives one answer at feeds that look alike. -/
theorem same_kind (test : Kind → Bool) (feed other : Feed) (alike : comparison.like feed other) :
    test other.kind = test feed.kind := by
  rw [kind_eq alike]

/-- Operands with binary operators of a rank or a tighter one between them are followed. -/
theorem follows_ladder (tight : comparison.Follows operand operand')
    (reads : operand.Reads (written Rank.cast)) (reads' : operand'.Reads (written Rank.cast))
    (index : Nat) (bound : index ≤ 10) :
    comparison.Follows (ladder operand (binaryLevels.drop index))
      (ladder operand' (binaryLevels.drop index)) := by
  induction left : 10 - index generalizing index with
  | zero =>
    obtain rfl : index = 10 := by omega
    exact tight
  | succ left ih =>
    have inner := ih (index + 1) (by omega) (by omega)
    have one := follows_advance.bind fun op => inner.bind fun right => follows_pure (op, right)
    rw [drop_binaryLevels (by omega)]
    refine inner.bind fun first => (follows_many (same_kind _) one ?_ ?_).bind fun others =>
      follows_pure _
    · exact shrinks_operation (reads_ladder reads (index + 1) (by omega))
    · exact shrinks_operation (reads_ladder reads' (index + 1) (by omega))

/-- An expression with binary operators, and a choice behind it, is followed. -/
theorem follows_conditional (inner : comparison.Follows expr expr')
    (tight : comparison.Follows operand operand') (reads : operand.Reads (written Rank.cast))
    (reads' : operand'.Reads (written Rank.cast)) :
    comparison.Follows (conditional expr operand) (conditional expr' operand') := by
  refine (follows_ladder tight reads reads' 0 (by omega)).bind fun condition => ?_
  refine follows_kind.bind fun kind => follows_ite ?_ (follows_pure _)
  exact (follows_mark _).bind fun _ => inner.bind fun _ => (follows_mark _).bind fun _ =>
    inner.bind fun _ => follows_pure _

end Expressions

/-- Expressions and operands are followed with the same or a larger budget. -/
theorem follows_expr_operand (discreet : comparison.Discreet) {budget larger : Nat}
    (enough : budget ≤ larger) :
    comparison.Follows (expr budget) (expr larger) ∧
      comparison.Follows (operand budget) (operand larger) := by
  induction budget generalizing larger with
  | zero =>
    rw [expr, operand]
    exact ⟨follows_tooDeep _ _, follows_tooDeep _ _⟩
  | succ budget ih =>
    obtain ⟨below, rfl⟩ : ∃ below, larger = below + 1 := ⟨larger - 1, by omega⟩
    obtain ⟨inner, tight⟩ := @ih below (by omega)
    rw [expr, expr, operand, operand]
    exact ⟨follows_conditional inner tight (reads_operand budget) (reads_operand below),
      follows_castOr discreet inner tight⟩

/-- Expressions are followed with the same or a larger budget. -/
theorem follows_expr (discreet : comparison.Discreet) {budget larger : Nat}
    (enough : budget ≤ larger) : comparison.Follows (expr budget) (expr larger) :=
  (follows_expr_operand discreet enough).1

/-- Sums are followed with the same or a larger budget. -/
theorem follows_additive (discreet : comparison.Discreet) {budget larger : Nat}
    (enough : budget ≤ larger) : comparison.Follows (additive budget) (additive larger) :=
  follows_ladder (follows_expr_operand discreet enough).2 (reads_operand budget)
    (reads_operand larger) 8 (by omega)

/-- Where the first operand is lost, so is what is joined to it. -/
theorem lost_ladder {operand : Parser Expr} (reads : operand.Reads (written Rank.cast))
    {feed : Feed} (lost : comparison.Lost (operand feed)) (index : Nat) (bound : index ≤ 10) :
    comparison.Lost (ladder operand (binaryLevels.drop index) feed) := by
  induction left : 10 - index generalizing index with
  | zero =>
    obtain rfl : index = 10 := by omega
    exact lost
  | succ left ih =>
    have inner := reads_ladder reads (index + 1) (by omega)
    have narrows := narrows_many
      (narrows_advance.bind fun op => (narrows_of_reads inner).bind fun right =>
        narrows_pure (op, right))
      (shrinks_operation inner)
    rw [drop_binaryLevels (by omega), ladder, level, bind_apply]
    exact (ih (index + 1) (by omega) (by omega)).andThen fun first =>
      narrows.bind fun others => narrows_pure _

/-- An expression passes the last token that is compared, if looking ahead may be wrong about
it. -/
theorem lost_expr {feed : Feed} (parting : Parting comparison feed) (budget : Nat) :
    comparison.Lost (expr budget feed) := by
  have lostOperand : ∀ budget, comparison.Lost (operand budget feed) := by
    intro budget
    cases budget with
    | zero =>
      rw [operand]
      exact .inr rfl
    | succ below =>
      rw [operand]
      exact lost_castOr (narrows_of_reads (reads_expr below))
        (narrows_of_reads (reads_operand below)) parting
  cases budget with
  | zero =>
    rw [expr]
    exact .inr rfl
  | succ below =>
    have narrows := narrows_of_reads (reads_expr below)
    rw [expr, conditional, bind_apply]
    refine (lost_ladder (reads_operand below) (lostOperand below) 0 (by omega)).andThen fun _ => ?_
    refine (@follows_kind comparison).narrows.bind fun kind => ?_
    split
    · exact (narrows_of_reads (reads_mark .question)).bind fun _ => narrows.bind fun _ =>
        (narrows_of_reads (reads_mark .colon)).bind fun _ => narrows.bind fun _ => narrows_pure _
    · exact narrows_pure _

/-- The type of a declaration list is followed. -/
theorem follows_typeName : comparison.Follows typeName typeName := by
  refine follows_kind.bind fun kind => follows_ite ?_ ?_
  · exact (follows_word _).bind fun _ => (follows_satisfy _ _).bind fun _ => follows_pure _
  · exact (follows_satisfy _ _).bind fun _ => follows_pure _

section Declarations

variable {budget larger : Nat}

/-- One declared variable is followed. -/
theorem follows_declarator (discreet : comparison.Discreet) (enough : budget ≤ larger)
    (type : TypeName) :
    comparison.Follows (declarator (expr budget) type) (declarator (expr larger) type) := by
  refine (follows_eat _).bind fun target => follows_kind.bind fun kind => follows_ite ?_ ?_
  · exact (follows_mark _).bind fun op => (follows_expr discreet enough).bind fun value =>
      follows_pure _
  · exact follows_pure _

/-- Things with a mark before each are followed if each of them is. -/
theorem follows_manyBehind {α : Type} {symbol : Mark} {item item' : Parser α}
    {language : Language α} (follows : comparison.Follows item item') (reads : item.Reads language)
    (reads' : item'.Reads language) :
    comparison.Follows (ParserLike.manyAt (.mark symbol) (do let _ ← mark symbol; item))
      (ParserLike.manyAt (.mark symbol) (do let _ ← mark symbol; item')) := by
  refine follows_many (same_kind (· = .mark symbol)) ((follows_mark _).bind fun _ => follows) ?_ ?_
  · exact shrinks_of_fits (fun feed _ => (reads_behind symbol reads).fits feed) behind_ne_nil
  · exact shrinks_of_fits (fun feed _ => (reads_behind symbol reads').fits feed) behind_ne_nil

/-- A declaration list is followed. -/
theorem follows_declarations (discreet : comparison.Discreet) (enough : budget ≤ larger) :
    comparison.Follows (declarations (expr budget)) (declarations (expr larger)) := by
  refine follows_typeName.bind fun type => ?_
  have one := follows_declarator discreet enough type
  refine one.bind fun first => ?_
  refine (follows_manyBehind one (reads_declarator (reads_expr budget) type)
    (reads_declarator (reads_expr larger) type)).bind fun others => ?_
  exact (follows_mark _).bind fun _ => follows_pure _

/-- An assignment or an expression is followed. -/
theorem follows_assignmentOr (discreet : comparison.Discreet) (enough : budget ≤ larger) :
    comparison.Follows (assignmentOr (expr budget)) (assignmentOr (expr larger)) := by
  have inner := follows_expr discreet enough
  unfold assignmentOr
  refine follows_ahead (fun feed other alike => ?_) ?_ (inner.bind fun _ => follows_pure _)
  · refine (discreet.assignment alike).imp_right fun ⟨same, fleeting⟩ => ?_
    -- The variable is passed as the target of an assignment or as an expression.
    rw [bind_apply, ahead_apply, Outcome.accepted_andThen]
    split
    · rw [bind_apply]
      refine (lost_eat same fleeting).andThen fun _ => ?_
      exact (@follows_satisfy comparison _ _).narrows.bind fun _ => inner.narrows.bind fun _ =>
        narrows_pure _
    · rw [bind_apply]
      exact (lost_expr ⟨.inr same, fleeting⟩ budget).andThen fun _ => narrows_pure _
  · exact (follows_eat _).bind fun _ => (follows_satisfy _ _).bind fun _ => inner.bind fun _ =>
      follows_pure _

/-- A simple statement is followed. -/
theorem follows_simple (discreet : comparison.Discreet) (enough : budget ≤ larger) :
    comparison.Follows (simple (expr budget)) (simple (expr larger)) := by
  refine follows_kind.bind fun kind => follows_ite ?_ ?_
  · exact (follows_mark _).bind fun _ => follows_pure _
  · exact (follows_assignmentOr discreet enough).bind fun _ => (follows_mark _).bind fun _ =>
      follows_pure _

end Declarations

section Statements

variable {budget larger : Nat}

/-- An item of a block is followed. -/
theorem follows_item (discreet : comparison.Discreet) (enough : budget ≤ larger)
    (below : comparison.Follows (statement budget) (statement larger)) :
    comparison.Follows (item (expr budget) (statement budget))
      (item (expr larger) (statement larger)) :=
  follows_choose (same_kind Kind.declares)
    ((follows_declarations discreet enough).bind fun _ => follows_pure _)
    (below.bind fun _ => follows_pure _)

/-- The items of a block are followed. -/
theorem follows_items (discreet : comparison.Discreet) (enough : budget ≤ larger)
    (below : comparison.Follows (statement budget) (statement larger)) (closers : List Kind) :
    comparison.Follows (items (expr budget) (statement budget) closers)
      (items (expr larger) (statement larger) closers) := by
  refine (follows_many (same_kind fun kind => !closers.contains kind && kind ≠ .eof)
    (follows_item discreet enough below) ?_ ?_).bind fun groups => follows_pure _
  · exact shrinks_item budget closers
  · exact shrinks_item larger closers

/-- Items between braces are followed. -/
theorem follows_braced (discreet : comparison.Discreet) (enough : budget ≤ larger)
    (below : comparison.Follows (statement budget) (statement larger)) :
    comparison.Follows (braced (expr budget) (statement budget))
      (braced (expr larger) (statement larger)) :=
  (follows_mark _).bind fun _ => (follows_items discreet enough below _).bind fun _ =>
    (follows_mark _).bind fun _ => follows_pure _

/-- An expression between parentheses is followed. -/
theorem follows_parenthesized (discreet : comparison.Discreet) (enough : budget ≤ larger) :
    comparison.Follows (parenthesized (expr budget)) (parenthesized (expr larger)) :=
  (follows_mark _).bind fun _ => (follows_expr discreet enough).bind fun _ =>
    (follows_mark _).bind fun _ => follows_pure _

/-- An `if` statement is followed. -/
theorem follows_branch (discreet : comparison.Discreet) (enough : budget ≤ larger)
    (below : comparison.Follows (statement budget) (statement larger)) :
    comparison.Follows (branch (expr budget) (statement budget))
      (branch (expr larger) (statement larger)) := by
  refine (follows_word _).bind fun word =>
    (follows_parenthesized discreet enough).bind fun condition => below.bind fun body => ?_
  refine follows_kind.bind fun kind => follows_ite ?_ (follows_pure _)
  exact (follows_word _).bind fun _ => below.bind fun _ => follows_pure _

/-- A loop with a start, a test and an action is followed. -/
theorem follows_forLoop (discreet : comparison.Discreet) (enough : budget ≤ larger)
    (below : comparison.Follows (statement budget) (statement larger)) :
    comparison.Follows (forLoop (expr budget) (statement budget))
      (forLoop (expr larger) (statement larger)) := by
  have simple := follows_simple discreet enough
  have start : comparison.Follows (forStart (expr budget)) (forStart (expr larger)) :=
    follows_choose (same_kind Kind.declares)
      ((follows_declarations discreet enough).bind fun _ => follows_pure _)
      (simple.bind fun _ => follows_pure _)
  have action : comparison.Follows (forAction (expr budget)) (forAction (expr larger)) :=
    follows_kind.bind fun _ => follows_ite (follows_pure _) (follows_assignmentOr discreet enough)
  exact (follows_word _).bind fun _ => (follows_mark _).bind fun _ => start.bind fun _ =>
    simple.bind fun _ => action.bind fun _ => (follows_mark _).bind fun _ => below.bind fun _ =>
      follows_pure _

/-- A `return` statement is followed. -/
theorem follows_returnBack (discreet : comparison.Discreet) (enough : budget ≤ larger) :
    comparison.Follows (returnBack (expr budget)) (returnBack (expr larger)) := by
  refine (follows_word _).bind fun word => follows_kind.bind fun kind => follows_ite ?_ ?_
  · exact (follows_mark _).bind fun _ => follows_pure _
  · exact (follows_expr discreet enough).bind fun _ => (follows_mark _).bind fun _ =>
      follows_pure _

/-- A case is followed. -/
theorem follows_case (discreet : comparison.Discreet) (enough : budget ≤ larger)
    (below : comparison.Follows (statement budget) (statement larger)) :
    comparison.Follows (case (expr budget) (statement budget))
      (case (expr larger) (statement larger)) := by
  have label : comparison.Follows caseLabel caseLabel :=
    follows_kind.bind fun _ =>
      follows_ite ((follows_eat _).bind fun _ => follows_pure _) follows_constant
  exact (follows_word _).bind fun _ => label.bind fun _ => (follows_mark _).bind fun _ =>
    (follows_items discreet enough below _).bind fun _ => follows_pure _

/-- A choice between cases is followed. -/
theorem follows_switch (discreet : comparison.Discreet) (enough : budget ≤ larger)
    (below : comparison.Follows (statement budget) (statement larger)) :
    comparison.Follows (switch (expr budget) (statement budget))
      (switch (expr larger) (statement larger)) := by
  have cases : comparison.Follows
      (ParserLike.manyAt (.keyword .caseWord) (case (expr budget) (statement budget)))
      (ParserLike.manyAt (.keyword .caseWord) (case (expr larger) (statement larger))) :=
    follows_many (same_kind (· = .keyword .caseWord)) (follows_case discreet enough below)
      (shrinks_case budget) (shrinks_case larger)
  have fallback : comparison.Follows (fallback (expr budget) (statement budget))
      (fallback (expr larger) (statement larger)) := by
    refine follows_kind.bind fun kind => follows_ite ?_ (follows_pure _)
    exact (follows_word _).bind fun _ => (follows_mark _).bind fun _ =>
      (follows_items discreet enough below _).bind fun _ => follows_pure _
  exact (follows_word _).bind fun _ => (follows_parenthesized discreet enough).bind fun _ =>
    (follows_mark _).bind fun _ => cases.bind fun _ => fallback.bind fun _ =>
      (follows_mark _).bind fun _ => follows_pure _

/-- A print statement is followed. -/
theorem follows_print (discreet : comparison.Discreet) (enough : budget ≤ larger) :
    comparison.Follows (print (additive budget)) (print (additive larger)) := by
  have one := follows_additive discreet enough
  refine (follows_word _).bind fun word => ?_
  refine ((follows_mark _).bind fun _ => one).bind fun first => ?_
  refine (follows_manyBehind one (reads_additive budget) (reads_additive larger)).bind
    fun others => ?_
  exact (follows_mark _).bind fun _ => follows_pure _

end Statements

/-- Statements are followed with the same or a larger budget. -/
theorem follows_statement (discreet : comparison.Discreet) {budget larger : Nat}
    (enough : budget ≤ larger) : comparison.Follows (statement budget) (statement larger) := by
  induction budget generalizing larger with
  | zero => exact follows_tooDeep _ _
  | succ budget ih =>
    obtain ⟨above, rfl⟩ : ∃ above, larger = above + 1 := ⟨larger - 1, by omega⟩
    have enough : budget ≤ above := by omega
    have below := ih enough
    have single : ∀ keyword build,
        comparison.Follows (single keyword build) (single keyword build) := fun _ _ =>
      (follows_word _).bind fun _ => (follows_mark _).bind fun _ => follows_pure _
    rw [statement, statement]
    refine follows_kind.bind fun kind => ?_
    split
    · exact follows_branch discreet enough below
    · exact (follows_braced discreet enough below).bind fun _ => follows_pure _
    · exact (follows_word _).bind fun _ => (follows_parenthesized discreet enough).bind fun _ =>
        below.bind fun _ => follows_pure _
    · exact (follows_word _).bind fun _ => below.bind fun _ => (follows_word _).bind fun _ =>
        (follows_parenthesized discreet enough).bind fun _ => (follows_mark _).bind fun _ =>
          follows_pure _
    · exact follows_forLoop discreet enough below
    · exact follows_returnBack discreet enough
    · exact single _ _
    · exact single _ _
    · exact follows_switch discreet enough below
    · exact follows_print discreet enough
    · exact (follows_simple discreet enough).bind fun _ => follows_pure _

section Programs

variable {budget larger : Nat}

/-- Something that stands before the entry point is followed. -/
theorem follows_opening (discreet : comparison.Discreet) (enough : budget ≤ larger) :
    comparison.Follows (opening budget) (opening larger) := by
  have header : comparison.Follows headerName headerName :=
    (follows_eat _).bind fun _ => (follows_manyBehind (follows_eat _) reads_name reads_name).bind
      fun _ => follows_pure _
  refine follows_kind.bind fun kind => ?_
  split
  · exact (follows_word _).bind fun _ => (follows_word _).bind fun _ => (follows_eat _).bind
      fun _ => (follows_mark _).bind fun _ => follows_pure _
  · exact (follows_mark _).bind fun _ => (follows_word _).bind fun _ => (follows_mark _).bind
      fun _ => header.bind fun _ => (follows_mark _).bind fun _ => follows_pure _
  · exact (follows_declarations discreet enough).bind fun _ => follows_pure _

/-- The entry point is followed. -/
theorem follows_entryPoint (discreet : comparison.Discreet) (enough : budget ≤ larger) :
    comparison.Follows (entryPoint budget) (entryPoint larger) :=
  (follows_word _).bind fun _ => (follows_eat _).bind fun _ => (follows_mark _).bind fun _ =>
    (follows_mark _).bind fun _ =>
      (follows_braced discreet enough (follows_statement discreet enough)).bind fun _ =>
        follows_pure _

/-- Whether a feed begins with `int` and a name that is the last token compared, so that looking
ahead may be wrong about an entry point. -/
def PartingEntry (comparison : Comparison) (feed : Feed) : Prop :=
  feed.kind = .keyword .intWord ∧
    ∃ rest, feed.next = .ok rest ∧ rest.kind = .name ∧ comparison.Fleeting rest

/-- Taken for declarations, the name is passed as that of a variable. -/
theorem lost_opening {feed : Feed} (parting : PartingEntry comparison feed) :
    comparison.Lost (opening budget feed) := by
  obtain ⟨typed, rest, moved, named, fleeting⟩ := parting
  have split := Feed.eq_more_of_next moved (by rw [typed]; decide)
  have isType : feed.current.kind.isType = true := by
    show feed.kind.isType = true
    rw [typed]
    rfl
  have lostDeclarator : ∀ type, comparison.Lost (declarator (expr budget) type rest) := by
    intro type
    rw [declarator, bind_apply]
    refine (lost_eat named fleeting).andThen fun target => ?_
    refine (@follows_kind comparison).narrows.bind fun kind => ?_
    split
    · exact (narrows_of_reads (reads_mark .assign)).bind fun _ =>
        (narrows_of_reads (reads_expr budget)).bind fun _ => narrows_pure _
    · exact narrows_pure _
  have typeRead : typeName feed = .accepted ⟨feed.current, false⟩ rest := by
    have other : feed.kind ≠ .keyword .constWord := by
      rw [typed]
      decide
    have word : typeWord feed = .accepted feed.current rest := by
      rw [typeWord, satisfy_of_test isType, split]
      rfl
    simp [typeName, other, word]
  rw [opening, openingOf, ParserLike.liftM_self, bind_apply, kind_apply, Outcome.accepted_andThen]
  simp only [typed, bind_apply, declarations, ParserLike.liftM_self, typeRead,
    Outcome.accepted_andThen]
  refine Lost.andThen ((lostDeclarator _).andThen fun first => ?_) fun _ => narrows_pure _
  have others := reads_manyBehind
    (reads_behind .comma (reads_declarator (reads_expr budget) ⟨feed.current, false⟩))
  exact (narrows_of_reads others).bind fun _ =>
    (narrows_of_reads (reads_mark .semicolon)).bind fun _ => narrows_pure _

/-- Taken for an entry point, the name is passed as its own. -/
theorem lost_entryPoint {feed : Feed} (parting : PartingEntry comparison feed) :
    comparison.Lost (entryPoint budget feed) := by
  obtain ⟨typed, rest, moved, named, fleeting⟩ := parting
  have split := Feed.eq_more_of_next moved (by rw [typed]; decide)
  have word : word .intWord feed = .accepted feed.current rest := by
    rw [split]
    exact word_more typed rest
  rw [entryPoint, entryPointOf, ParserLike.liftM_self, bind_apply, word, Outcome.accepted_andThen,
    bind_apply]
  refine (lost_eat named fleeting).andThen fun name => ?_
  exact (narrows_of_reads (reads_mark .leftParen)).bind fun _ =>
    (narrows_of_reads (reads_mark .rightParen)).bind fun _ =>
      (narrows_of_reads (reads_braced (reads_expr budget) (reads_statement budget))).bind fun _ =>
        narrows_pure _

/-- What stands before the entry point, the entry point, and something that depends on both. -/
def framed {α : Type} (budget : Nat) (next : List Opening → Option EntryPoint → Parser α) :
    Parser α := do
  let openings ← many atOpening (opening budget)
  let entry ← entryPoint? budget
  next openings entry

/-- Either something more stands before the entry point, or the entry point is next. -/
theorem framed_eq {α : Type} (budget : Nat) (next : List Opening → Option EntryPoint → Parser α)
    (feed : Feed) :
    framed budget next feed =
      if atOpening feed then
        (opening budget feed).andThen fun first =>
          framed budget fun others => next (first :: others)
      else (entryPoint? budget feed).andThen (next []) := by
  unfold framed
  rw [bind_apply, many_eq (shrinks_opening budget)]
  by_cases goes : atOpening feed = true
  · rw [if_pos goes, if_pos goes]
    cases opening budget feed with
    | rejected error stop => rfl
    | accepted first rest =>
      simp only [Outcome.accepted_andThen, bind_apply]
      cases many atOpening (opening budget) rest <;> rfl
  · rw [if_neg goes, if_neg goes, Outcome.accepted_andThen, bind_apply]

/-- What depends on both leaves no more than it was given, if it does so alone. -/
theorem narrows_framed {α : Type} {next : List Opening → Option EntryPoint → Parser α}
    (narrows : ∀ openings entry, Narrows (next openings entry)) : Narrows (framed budget next) := by
  exact (narrows_of_reads (reads_openings budget)).bind fun _ =>
    (narrows_of_reads (reads_entryPoint? budget)).bind fun _ => narrows _ _

/-- Where looking ahead may be wrong about an entry point, either way passes its name. -/
theorem lost_framed {α : Type} {next : List Opening → Option EntryPoint → Parser α}
    (narrows : ∀ openings entry, Narrows (next openings entry)) {feed : Feed}
    (parting : PartingEntry comparison feed) : comparison.Lost (framed budget next feed) := by
  rw [framed_eq]
  by_cases goes : atOpening feed = true
  · rw [if_pos goes]
    exact (lost_opening parting).andThen fun first => narrows_framed fun _ _ => narrows _ _
  · rw [if_neg goes]
    have ahead : feed.startsWith entryAhead = true := by
      simpa [atOpening, atDeclaration, parting.1, Kind.isType, Keyword.isType] using goes
    rw [entryPoint?, entryPointOf?, ParserLike.liftM_self, bind_apply, ahead_apply,
      Outcome.accepted_andThen, if_pos ahead, bind_apply]
    exact Lost.andThen ((lost_entryPoint parting).andThen fun _ => narrows_pure _)
      fun _ => narrows _ _

/-- What stands around the entry point is followed, with what depends on it. -/
theorem agree_framed {α : Type} (discreet : comparison.Discreet) (enough : budget ≤ larger)
    {next next' : List Opening → Option EntryPoint → Parser α}
    (follows : ∀ openings entry, comparison.Follows (next openings entry) (next' openings entry))
    {feed other : Feed} (alike : comparison.like feed other) :
    comparison.Lost (framed budget next feed) ∨
      comparison.Match (framed budget next feed) (framed larger next' other) := by
  have narrows := fun openings entry => (follows openings entry).narrows
  induction size : feed.size using Nat.strongRecOn generalizing feed other next next' with
  | ind bound ih =>
    rcases discreet.entry alike with same | parting
    · have goes : atOpening other = atOpening feed := by
        rw [atOpening, atOpening, atDeclaration, atDeclaration, kind_eq alike, same]
      rw [framed_eq, framed_eq, goes]
      by_cases goes : atOpening feed = true
      · rw [if_pos goes, if_pos goes]
        refine agree_andThen ((follows_opening discreet enough).agree feed other alike)
          (fun first => narrows_framed fun _ _ => narrows _ _) ?_
        intro first rest behind accepted alikeRest
        have fewer := shrinks_opening budget _ _ _ goes accepted
        exact ih rest.size (by omega) (fun others entry => follows (first :: others) entry)
          alikeRest (fun _ _ => narrows _ _) rfl
      · rw [if_neg goes, if_neg goes]
        have entry : comparison.Lost (entryPoint? budget feed) ∨
            comparison.Match (entryPoint? budget feed) (entryPoint? larger other) := by
          rw [entryPoint?, entryPoint?, entryPointOf?, entryPointOf?, ParserLike.liftM_self,
            bind_apply, bind_apply, ahead_apply, ahead_apply, Outcome.accepted_andThen,
            Outcome.accepted_andThen, same]
          have some := (follows_entryPoint discreet enough).bind
            fun entry => follows_pure (some entry)
          split
          · exact some.agree feed other alike
          · exact (follows_pure none).agree feed other alike
        exact agree_andThen entry (narrows [])
          fun entry rest behind _ alikeRest => (follows [] entry).agree rest behind alikeRest
    · exact .inl (lost_framed narrows parting)

/-- A whole program is followed with the same or a larger budget. -/
theorem follows_wholeProgram (discreet : comparison.Discreet) (enough : budget ≤ larger) :
    comparison.Follows (wholeProgram budget) (wholeProgram larger) := by
  have behind : comparison.Follows (many atDeclaration (declarations (expr budget)))
      (many atDeclaration (declarations (expr larger))) :=
    follows_many (same_kind Kind.declares) (follows_declarations discreet enough)
      (shrinks_declarations budget) (shrinks_declarations larger)
  have program : comparison.Follows (program budget) (program larger) := by
    refine ⟨narrows_of_reads (reads_program budget), fun feed other alike => ?_⟩
    exact agree_framed discreet enough
      (fun openings entry => behind.bind fun after => follows_pure _) alike
  exact program.bind fun tree => follows_kind.bind fun kind =>
    follows_ite (follows_pure tree) (follows_unexpected _)

end Programs

end Grammar

end Cpplet

import Cpplet.Proofs.Pointing
import Cpplet.Proofs.Printing
import Cpplet.Proofs.Rereading

/-!
# How deep outlines of parsed programs are

Every level that nesting opens makes an outline deeper by a few rows only, and nesting is limited.
But operators of one level open no levels: each joins what stands on its left, so `1 + 1 + 1` is a
chain of operations in which each is the left operand of the next, as long as the source likes.
Depth is bounded when steps to left operands are not counted (`Outline.Rises`), and so the depth of
an outline is limited by the longest chain in it and by nothing else.
-/

namespace Cpplet

variable {α β : Type}

namespace Outline

/-- Whether a label is that of a binary operator. -/
def Joins (label : String) : Prop := (heading label).1 = "BinOp"

instance (label : String) : Decidable (Joins label) := inferInstanceAs (Decidable (_ = _))

/-- A binary operator joins, however it is written. -/
theorem joins_binOp (op : String) : Joins ("BinOp " ++ op) := by
  rw [Joins, @heading_append "BinOp " "BinOp" (by decide) (by decide) op]

/-- Outlines with at most a number of levels, where the first operand of a binary operator is on
the level of the operator. -/
inductive Rises : Nat → Outline → Prop where
  /-- The nodes below have one level less. -/
  | node {levels : Nat} {label : String} {place : Option Location} {children : List Outline}
      (below : ∀ child ∈ children, Rises levels child) :
      Rises (levels + 1) (.node label place children)
  /-- The second operand of a binary operator has one level less. -/
  | join {levels : Nat} {label : String} {place : Option Location} {left right : Outline}
      (joins : Joins label) (first : Rises (levels + 1) left) (second : Rises levels right) :
      Rises (levels + 1) (.node label place [left, right])

/-- An outline with some levels has at most more levels. -/
theorem Rises.mono {fewer : Nat} {outline : Outline} (rises : outline.Rises fewer) {more : Nat}
    (bound : fewer ≤ more) : outline.Rises more := by
  induction rises generalizing more with
  | node below ih =>
    obtain ⟨more, rfl⟩ : ∃ rest, more = rest + 1 := ⟨more - 1, by omega⟩
    exact .node fun child member => ih child member (by omega)
  | join joins first second ihFirst ihSecond =>
    obtain ⟨more, rfl⟩ : ∃ rest, more = rest + 1 := ⟨more - 1, by omega⟩
    exact .join joins (ihFirst bound) (ihSecond (by omega))

/-- An outline without nodes below its root has one level. -/
theorem rises_leaf (label : String) (place : Option Location) :
    Rises 1 (.node label place []) :=
  .node (List.forall_mem_nil _)

/-- A label row has one level more than what is below it. -/
theorem Rises.slot {levels : Nat} {content : Outline} (rises : content.Rises levels)
    (label : String) : (slot label content).Rises (levels + 1) :=
  .node (List.forall_mem_singleton.mpr rises)

/-! ## Chains -/

/-- How many binary operators follow one another from a node on, each the first operand of the one
before it. -/
def chain : Outline → Nat
  | .node label _ (left :: _) => if Joins label then left.chain + 1 else 0
  | .node _ _ [] => 0

mutual

/-- The length of the longest chain of an outline. -/
def longestChain : Outline → Nat
  | .node label place children => max (chain (.node label place children)) (longestOf children)

/-- The length of the longest chain of some outlines. -/
def longestOf : List Outline → Nat
  | [] => 0
  | outline :: others => max (longestChain outline) (longestOf others)

end

/-- The longest chain is at least as long as the one that begins at the root. -/
theorem chain_le_longestChain (outline : Outline) : outline.chain ≤ outline.longestChain := by
  obtain ⟨label, place, children⟩ := outline
  rw [longestChain]
  exact Nat.le_max_left _ _

/-- The longest chain of an outline is at least as long as that of each outline among those of which
it is made. -/
theorem longestChain_le_longestOf {outline : Outline} {outlines : List Outline}
    (member : outline ∈ outlines) : outline.longestChain ≤ longestOf outlines := by
  induction outlines with
  | nil => cases member
  | cons first others ih =>
    rw [longestOf]
    rcases List.mem_cons.mp member with rfl | later
    · exact Nat.le_max_left _ _
    · have bound := ih later
      omega

/-- What stands below a node has no longer chains than the node. -/
theorem longestChain_child_le (label : String) (place : Option Location)
    {children : List Outline} {child : Outline} (member : child ∈ children) :
    child.longestChain ≤ (node label place children).longestChain := by
  have bound := longestChain_le_longestOf member
  rw [longestChain]
  omega

/-- A row of an outline with some levels and short chains is not deep: each level adds at most one
chain, and the root adds the chain that begins there. -/
theorem Rises.depth_le {levels longest depth : Nat} {outline : Outline}
    (rises : outline.Rises levels) (chains : outline.longestChain ≤ longest) :
    ∀ row ∈ rowsAt depth outline,
      row.depth + longest + 1 ≤ depth + outline.chain + levels * (longest + 1) := by
  induction rises generalizing depth with
  | @node levels label place children below ih =>
    intro row member
    rw [rowsAt] at member
    rw [Nat.succ_mul]
    rcases List.mem_cons.mp member with rfl | later
    · show depth + longest + 1 ≤ _
      omega
    · obtain ⟨child, among, found⟩ := exists_of_mem_rowsOfAll later
      have shorter := longestChain_child_le label place among
      have within := ih child among (Nat.le_trans shorter chains) row found
      have start := chain_le_longestChain child
      omega
  | @join levels label place left right joins first second ihFirst ihSecond =>
    intro row member
    rw [rowsAt, rowsOfAll, rowsOfAll, rowsOfAll, List.append_nil] at member
    have shorterLeft := longestChain_child_le label place
      (show left ∈ [left, right] from List.mem_cons_self)
    have shorterRight := longestChain_child_le label place
      (List.mem_cons_of_mem left (List.mem_singleton_self right))
    have longer : (Outline.node label place [left, right]).chain = left.chain + 1 := by
      rw [chain, if_pos joins]
    rcases List.mem_cons.mp member with rfl | later
    · show depth + longest + 1 ≤ _
      rw [Nat.succ_mul]
      omega
    · rcases List.mem_append.mp later with inLeft | inRight
      · -- The first operand adds no level; the chain that begins there is one shorter.
        have within := ihFirst (Nat.le_trans shorterLeft chains) row inLeft
        omega
      · have within := ihSecond (Nat.le_trans shorterRight chains) row inRight
        have start := chain_le_longestChain right
        rw [Nat.succ_mul]
        omega

/-- A row of one of several outlines is a row of all of them. -/
theorem mem_rowsOfAll_of_mem {row : Row} {depth : Nat} {outline : Outline}
    {outlines : List Outline} (among : outline ∈ outlines) (member : row ∈ rowsAt depth outline) :
    row ∈ rowsOfAll depth outlines := by
  induction outlines with
  | nil => cases among
  | cons first others ih =>
    rw [rowsOfAll]
    rcases List.mem_cons.mp among with rfl | later
    · exact List.mem_append_left _ member
    · exact List.mem_append_right _ (ih later)

/-- Some row is as deep as the chain from the root is long. -/
theorem exists_depth_ge_chain (outline : Outline) (depth : Nat) :
    ∃ row ∈ rowsAt depth outline, depth + outline.chain ≤ row.depth := by
  match outline with
  | .node label place [] => exact ⟨_, List.mem_cons_self, Nat.le_refl depth⟩
  | .node label place (left :: others) =>
    by_cases joins : Joins label
    · obtain ⟨row, member, deep⟩ := exists_depth_ge_chain left (depth + 1)
      refine ⟨row, ?_, ?_⟩
      · rw [rowsAt]
        exact List.mem_cons_of_mem _ (mem_rowsOfAll_of_mem List.mem_cons_self member)
      · rw [chain, if_pos joins]
        omega
    · refine ⟨_, List.mem_cons_self, ?_⟩
      rw [chain, if_neg joins]
      exact Nat.le_refl depth

/-- Unless there are no chains, some outline has the longest. -/
theorem exists_longest (outlines : List Outline) :
    longestOf outlines = 0 ∨ ∃ outline ∈ outlines, longestOf outlines = outline.longestChain := by
  induction outlines with
  | nil => exact .inl rfl
  | cons first others ih =>
    rw [longestOf]
    by_cases larger : longestOf others ≤ first.longestChain
    · exact .inr ⟨first, List.mem_cons_self, Nat.max_eq_left larger⟩
    · rcases ih with none | ⟨outline, member, longest⟩
      · omega
      · refine .inr ⟨outline, List.mem_cons_of_mem _ member, ?_⟩
        rw [← longest]
        omega

/-- Of each of some outlines a row is as deep as the longest chain is long. -/
theorem exists_depth_ge_of_mem (outlines : List Outline) (depth : Nat) :
    ∀ outline ∈ outlines, ∃ row ∈ rowsAt depth outline,
      depth + outline.longestChain ≤ row.depth := by
  induction outlines using forest_induction generalizing depth with
  | nil => exact List.forall_mem_nil _
  | cons label place children others ihChildren ihOthers =>
    refine List.forall_mem_cons.mpr ⟨?_, ihOthers depth⟩
    rw [longestChain]
    by_cases atRoot : longestOf children ≤ (node label place children).chain
    · obtain ⟨row, member, deep⟩ := exists_depth_ge_chain (node label place children) depth
      exact ⟨row, member, by omega⟩
    · rcases exists_longest children with none | ⟨child, among, longest⟩
      · omega
      · obtain ⟨row, member, deep⟩ := ihChildren (depth + 1) child among
        refine ⟨row, ?_, by omega⟩
        rw [rowsAt]
        exact List.mem_cons_of_mem _ (mem_rowsOfAll_of_mem among member)

end Outline

namespace Parser

/-- Whether every value that a parser accepts has a property. -/
def Yields (post : α → Prop) (parser : Parser α) : Prop := parser.Ensures fun value _ => post value

variable {post : α → Prop}

/-- A value is yielded. -/
theorem yields_pure {value : α} (holds : post value) : Yields post (Pure.pure value) :=
  ensures_pure fun _ => holds

/-- What a parser yields from every value that another yields, both yield in a row. -/
theorem Yields.bind {first : Parser α} {second : α → Parser β} {result : β → Prop}
    (yields : first.Yields post) (next : ∀ value, post value → (second value).Yields result) :
    (first >>= second).Yields result := by
  intro feed found last accepted
  rw [bind_apply] at accepted
  cases outcome : first feed with
  | accepted value rest =>
    rw [outcome] at accepted
    exact next value (yields feed value rest outcome) rest found last accepted
  | rejected error stop =>
    rw [outcome] at accepted
    cases accepted

/-- What a parser yields in any case, it yields behind another. -/
theorem yields_behind {first : Parser α} {second : α → Parser β} {result : β → Prop}
    (next : ∀ value, (second value).Yields result) : (first >>= second).Yields result :=
  Ensures.bind next

/-- A weaker property is yielded too. -/
theorem Yields.mono {parser : Parser α} {weaker : α → Prop} (yields : parser.Yields post)
    (implies : ∀ value, post value → weaker value) : parser.Yields weaker :=
  fun feed value rest accepted => implies value (yields feed value rest accepted)

/-- What is never accepted yields anything. -/
theorem yields_unexpected (expected : Expectation) : Yields post (unexpected expected) := by
  intro feed value rest accepted
  cases accepted

/-- What is never accepted yields anything. -/
theorem yields_tooDeep (nested : Nesting) : Yields post (tooDeep nested) := by
  intro feed value rest accepted
  cases accepted

/-- One of two parsers yields what both do. -/
theorem Yields.choose {test : Feed → Bool} {yes no : Parser α} (yieldsYes : yes.Yields post)
    (yieldsNo : no.Yields post) : (Parser.choose test yes no).Yields post := by
  intro feed value rest accepted
  rw [Parser.choose] at accepted
  by_cases passes : test feed = true
  · rw [if_pos passes] at accepted
    exact yieldsYes feed value rest accepted
  · rw [if_neg passes] at accepted
    exact yieldsNo feed value rest accepted

/-- A repetition over a number of rounds yields values of which each is yielded. -/
theorem Yields.manyWithin {go : Feed → Bool} {item : Parser α} (yields : item.Yields post)
    (rounds : Feed) : (Parser.manyWithin go item rounds).Yields fun values =>
      ∀ value ∈ values, post value := by
  induction rounds with
  | eof location | last token fault =>
    intro feed values rest accepted
    rw [Parser.manyWithin.eq_def] at accepted
    split at accepted
    · cases outcome : item feed with
      | rejected error stop =>
        rw [outcome] at accepted
        cases accepted
      | accepted value behind =>
        rw [outcome] at accepted
        cases accepted
        exact List.forall_mem_singleton.mpr (yields feed value _ outcome)
    · cases accepted
      exact List.forall_mem_nil _
  | more token rounds ih =>
    intro feed values rest accepted
    rw [Parser.manyWithin.eq_def] at accepted
    split at accepted
    · cases outcome : item feed with
      | rejected error stop =>
        rw [outcome] at accepted
        cases accepted
      | accepted value behind =>
        rw [outcome] at accepted
        simp only at accepted
        cases others : Parser.manyWithin go item rounds behind with
        | rejected error stop =>
          rw [others] at accepted
          cases accepted
        | accepted later last =>
          rw [others] at accepted
          cases accepted
          exact List.forall_mem_cons.mpr ⟨yields feed value _ outcome, ih behind later _ others⟩
    · cases accepted
      exact List.forall_mem_nil _

/-- A repetition yields values of which each is yielded. -/
theorem Yields.many {go : Feed → Bool} {item : Parser α} (yields : item.Yields post) :
    (Parser.many go item).Yields fun values => ∀ value ∈ values, post value :=
  fun feed => yields.manyWithin feed feed

end Parser

namespace Grammar

open Cpplet.Parser Outline

/-! ## Expressions -/

/-- Whether the outline of an expression has at most a number of levels. -/
def Low (levels : Nat) (tree : Expr) : Prop := (ofExpr tree).Rises levels

variable {levels : Nat}

/-- An operation of which only the first operand may have as many levels as the operation. -/
theorem low_binary {left right : Expr} (op : Token) (first : Low (levels + 1) left)
    (second : Low levels right) : Low (levels + 1) (.binary left op right) :=
  .join (joins_binOp op.text) first second

/-- Joining operands from the left adds one level. -/
theorem low_joinLeft {first : Expr} {others : List (Token × Expr)} (head : Low (levels + 1) first)
    (tail : ∀ operation ∈ others, Low levels operation.2) :
    Low (levels + 1) (joinLeft first others) := by
  induction others generalizing first with
  | nil => exact head
  | cons operation others ih =>
    obtain ⟨here, behind⟩ := List.forall_mem_cons.mp tail
    exact ih (low_binary operation.1 head here) behind

/-- One level of binary operators adds one level. -/
theorem low_level {operand : Parser Expr} (low : operand.Yields (Low levels))
    (marks : List Mark) : (level marks operand).Yields (Low (levels + 1)) := by
  have operations : (operation operand).Yields fun pair => Low levels pair.2 :=
    yields_behind fun _ => low.bind fun _ holds => yields_pure holds
  refine low.bind fun first head => operations.many.bind fun others tail => ?_
  exact yields_pure (low_joinLeft (head.mono (Nat.le_succ levels)) tail)

/-- Each level of binary operators adds one level. -/
theorem low_ladder {operand : Parser Expr} (low : operand.Yields (Low levels))
    (marks : List (List Mark)) :
    (ladder operand marks).Yields (Low (levels + marks.length)) := by
  induction marks with
  | nil => exact low
  | cons first tighter ih => exact low_level ih first

/-- A constant has one level. -/
theorem low_constant : constant.Yields (Low 1) := by
  have leaf {build : Token → Expr} (low : ∀ token, Low 1 (build token)) :
      (advance >>= fun token => Pure.pure (build token)).Yields (Low 1) :=
    yields_behind fun token => yields_pure (low token)
  refine yields_behind fun kind => ?_
  split
  · exact leaf fun _ => rises_leaf _ _
  · exact leaf fun _ => rises_leaf _ _
  · exact leaf fun _ => rises_leaf _ _
  · exact leaf fun _ => rises_leaf _ _
  · exact leaf fun _ => rises_leaf _ _
  · exact leaf fun _ => rises_leaf _ _
  · exact yields_unexpected _

section Parts

variable {expr operand : Parser Expr} (low : expr.Yields (Low levels))

include low

/-- A primary expression has one level, or those of the expression in its parentheses. -/
theorem low_primary : (primary expr).Yields (Low (levels + 1)) := by
  have single : constant.Yields (Low (levels + 1)) :=
    low_constant.mono fun tree holds => holds.mono (by omega)
  refine yields_behind fun kind => ?_
  split
  · refine yields_behind fun _ => low.bind fun inner holds => yields_behind fun _ => ?_
    exact yields_pure (holds.mono (Nat.le_succ levels))
  · exact yields_behind fun _ => yields_pure ((rises_leaf _ _).mono (by omega))
  · exact single
  · exact single
  · exact single
  · exact single
  · exact single
  · exact single
  · exact yields_unexpected _

/-- A step behind an expression adds one level. -/
theorem low_stepped : (stepped expr).Yields (Low (levels + 2)) := by
  refine (low_primary low).bind fun operand holds => yields_behind fun kind => ?_
  split
  · exact yields_behind fun op => yields_pure (.node (List.forall_mem_singleton.mpr holds))
  · exact yields_pure (holds.mono (Nat.le_succ _))

variable (lowOperand : operand.Yields (Low levels))

include lowOperand

/-- A step or a sign before an expression adds one level. -/
theorem low_signed : (signed expr operand).Yields (Low (levels + 3)) := by
  refine yields_behind fun kind => ?_
  split
  · refine yields_behind fun op => (low_stepped low).bind fun operand holds => ?_
    exact yields_pure (.node (List.forall_mem_singleton.mpr holds))
  · split
    · refine yields_behind fun op => lowOperand.bind fun operand holds => ?_
      have deeper := holds.mono (show levels ≤ levels + 2 by omega)
      exact yields_pure (.node (List.forall_mem_singleton.mpr deeper))
    · exact (low_stepped low).mono fun tree holds => holds.mono (Nat.le_succ _)

/-- A cast adds one level. -/
theorem low_castOr : (castOr expr operand).Yields (Low (levels + 3)) := by
  have cast {type : Token} {tree : Expr} (holds : Low levels tree) :
      Low (levels + 3) (.cast type tree) := by
    have deeper := holds.mono (show levels ≤ levels + 2 by omega)
    exact .node (List.forall_mem_singleton.mpr deeper)
  refine yields_behind fun form => ?_
  split
  · refine yields_behind fun _ => yields_behind fun type => yields_behind fun _ => ?_
    exact lowOperand.bind fun tree holds => yields_pure (cast holds)
  · refine yields_behind fun form => ?_
    split
    · refine yields_behind fun type => yields_behind fun _ => low.bind fun tree holds => ?_
      exact yields_behind fun _ => yields_pure (cast holds)
    · exact low_signed low lowOperand

/-- Binary operators add a level for each of their levels, and a choice adds two. -/
theorem low_conditional : (conditional expr operand).Yields (Low (levels + 12)) := by
  refine (low_ladder lowOperand binaryLevels).bind fun condition holds => ?_
  -- There are ten levels of binary operators; the row that labels a part adds another.
  have test : Low (levels + 10) condition := holds
  refine yields_behind fun kind => ?_
  split
  · refine yields_behind fun _ => low.bind fun whenTrue first => yields_behind fun _ => ?_
    refine low.bind fun whenFalse second => yields_pure (.node ?_)
    simp only [List.forall_mem_cons]
    have firstDeep := first.mono (show levels ≤ levels + 10 by omega)
    have secondDeep := second.mono (show levels ≤ levels + 10 by omega)
    exact ⟨test.slot _, firstDeep.slot _, secondDeep.slot _, List.forall_mem_nil _⟩
  · exact yields_pure (test.mono (by omega))

end Parts

/-- Each level of the budget allows an expression twelve levels. -/
theorem low_expr_operand (budget : Nat) :
    (expr budget).Yields (Low (12 * budget)) ∧ (operand budget).Yields (Low (12 * budget)) := by
  induction budget with
  | zero => exact ⟨yields_tooDeep _, yields_tooDeep _⟩
  | succ budget ih =>
    obtain ⟨low, lowOperand⟩ := ih
    constructor
    · exact low_conditional low lowOperand
    · refine (low_castOr low lowOperand).mono fun tree holds => holds.mono ?_
      omega

/-- Each level of the budget allows an expression twelve levels. -/
theorem low_expr (budget : Nat) : (expr budget).Yields (Low (12 * budget)) :=
  (low_expr_operand budget).1

/-- A sum has two levels more than its operands. -/
theorem low_additive (budget : Nat) : (additive budget).Yields (Low (12 * budget + 2)) :=
  low_ladder (low_expr_operand budget).2 additiveLevels

/-! ## Statements -/

section Statements

variable {expr sum : Parser Expr} {statement : Parser Stmt} (low : expr.Yields (Low levels))
  (lowSum : sum.Yields (Low (levels + 2)))
  (lowInner : statement.Yields fun tree => (ofStmt tree).Rises (levels + 2))

/-- An assignment has one level more than its value, unless there is only the variable. -/
theorem rises_assignment {value : Expr} (holds : Low levels value) (target op : Token) :
    (ofAssignment target op value).Rises (levels + 2) := by
  have variableLow := (rises_leaf ("Variable " ++ target.text) (some target.location)).mono
    (show 1 ≤ levels + 1 by omega)
  have valueLow := holds.mono (show levels ≤ levels + 1 by omega)
  exact .node (List.forall_mem_cons.mpr ⟨variableLow, List.forall_mem_singleton.mpr valueLow⟩)

/-- A declaration of a variable has two levels. -/
theorem rises_declared (type : TypeName) (name : Token) :
    (ofDeclared type name).Rises (levels + 2) := by
  have leaf {label : String} {place : Option Location} :
      (Outline.node label place []).Rises (levels + 1) := (rises_leaf label place).mono (by omega)
  exact .node (List.forall_mem_cons.mpr ⟨leaf, List.forall_mem_singleton.mpr leaf⟩)

/-- A declaration step has the same outline among statements. -/
theorem ofStmt_toStmt (step : Declaration) : ofStmt step.toStmt = ofDeclaration step := by
  cases step <;> rfl

include low

/-- A declared variable adds two levels to its initial value. -/
theorem rises_declarator (type : TypeName) :
    (declarator expr type).Yields fun steps =>
      ∀ step ∈ steps, (ofDeclaration step).Rises (levels + 2) := by
  refine yields_behind fun target => yields_behind fun kind => ?_
  have declares : (ofDeclared type target).Rises (levels + 2) := rises_declared type target
  split
  · refine yields_behind fun op => low.bind fun value holds => yields_pure ?_
    have gives := rises_assignment holds target op
    exact List.forall_mem_cons.mpr ⟨declares, List.forall_mem_singleton.mpr gives⟩
  · exact yields_pure (List.forall_mem_singleton.mpr declares)

/-- Declarations add two levels to the initial values. -/
theorem rises_declarations :
    (declarations expr).Yields fun steps =>
      ∀ step ∈ steps, (ofDeclaration step).Rises (levels + 2) := by
  refine yields_behind fun type => (rises_declarator low type).bind fun first holdsFirst => ?_
  have next : (nextDeclarator expr type).Yields fun steps =>
      ∀ step ∈ steps, (ofDeclaration step).Rises (levels + 2) :=
    yields_behind fun _ => rises_declarator low type
  refine next.many.bind fun others holdsOthers => yields_behind fun _ => yields_pure ?_
  exact List.forall_mem_append.mpr ⟨holdsFirst, List.forall_mem_flatten.mpr holdsOthers⟩

/-- An assignment or an expression adds at most two levels. -/
theorem rises_assignmentOr :
    (assignmentOr expr).Yields fun part => (ofSimple part).Rises (levels + 2) := by
  refine yields_behind fun form => ?_
  split
  · refine yields_behind fun target => yields_behind fun op => low.bind fun value holds => ?_
    exact yields_pure (rises_assignment holds target op)
  · exact low.bind fun value holds => yields_pure (holds.mono (by omega))

/-- A simple statement adds at most two levels. -/
theorem rises_simple :
    (simple expr).Yields fun part => (ofSimple part).Rises (levels + 2) := by
  refine yields_behind fun kind => ?_
  split
  · exact yields_behind fun _ => yields_pure ((rises_leaf _ _).mono (by omega))
  · refine (rises_assignmentOr low).bind fun part holds => yields_behind fun _ => ?_
    exact yields_pure holds

/-- What a `for` statement begins with adds at most three levels. -/
theorem rises_forStart :
    (forStart expr).Yields fun start => (ofForStart start).Rises (levels + 3) := by
  refine .choose ((rises_declarations low).bind fun steps holds => yields_pure ?_)
    ((rises_simple low).bind fun part holds => yields_pure ?_)
  · exact .node (List.forall_mem_map.mpr holds)
  · exact holds.mono (by omega)

/-- What a `for` statement does after each round adds at most two levels. -/
theorem rises_forAction :
    (forAction expr).Yields fun part => (ofSimple part).Rises (levels + 2) := by
  refine yields_behind fun kind => ?_
  split
  · exact yields_pure ((rises_leaf _ _).mono (by omega))
  · exact rises_assignmentOr low

/-- An expression in parentheses has no levels of its own. -/
theorem low_parenthesized : (parenthesized expr).Yields (Low levels) := by
  refine yields_behind fun _ => low.bind fun inner holds => yields_behind fun _ => ?_
  exact yields_pure holds

include lowInner

/-- Statements and declarations next to each other are no deeper than each of them. -/
theorem rises_items (closers : List Kind) :
    (items expr statement closers).Yields fun body =>
      ∀ outline ∈ ofStmts body, outline.Rises (levels + 2) := by
  have one : (item expr statement).Yields fun body =>
      ∀ tree ∈ body, (ofStmt tree).Rises (levels + 2) := by
    refine .choose ((rises_declarations low).bind fun steps holds => yields_pure ?_)
      (lowInner.bind fun tree holds => yields_pure (List.forall_mem_singleton.mpr holds))
    refine List.forall_mem_map.mpr fun step member => ?_
    rw [ofStmt_toStmt]
    exact holds step member
  refine one.many.bind fun groups holds => yields_pure ?_
  rw [ofStmts_eq_map]
  exact List.forall_mem_map.mpr (List.forall_mem_flatten.mpr holds)

/-- Braces have no levels of their own. -/
theorem rises_braced :
    (braced expr statement).Yields fun pair =>
      ∀ outline ∈ ofStmts pair.2, outline.Rises (levels + 2) := by
  refine yields_behind fun brace => (rises_items low lowInner _).bind fun body holds => ?_
  exact yields_behind fun _ => yields_pure holds

/-- A branch adds two levels. -/
theorem rises_branch :
    (branch expr statement).Yields fun tree => (ofStmt tree).Rises (levels + 4) := by
  refine yields_behind fun word => (low_parenthesized low).bind fun test holdsTest => ?_
  have testSlot := (holdsTest.slot "Condition").mono (show levels + 1 ≤ levels + 3 by omega)
  refine lowInner.bind fun body holdsBody => yields_behind fun kind => ?_
  have bodySlot := holdsBody.slot "Then"
  split
  · refine yields_behind fun _ => lowInner.bind fun other holdsOther => yields_pure (.node ?_)
    simp only [ofElse, List.forall_mem_cons]
    exact ⟨testSlot, bodySlot, holdsOther.slot _, List.forall_mem_nil _⟩
  · refine yields_pure (.node ?_)
    simp only [ofElse, List.forall_mem_cons]
    exact ⟨testSlot, bodySlot, List.forall_mem_nil _⟩

/-- A loop with its test first adds two levels. -/
theorem rises_whileLoop :
    (whileLoop expr statement).Yields fun tree => (ofStmt tree).Rises (levels + 4) := by
  refine yields_behind fun word => (low_parenthesized low).bind fun test holdsTest => ?_
  have testSlot := (holdsTest.slot "Condition").mono (show levels + 1 ≤ levels + 3 by omega)
  refine lowInner.bind fun body holdsBody => yields_pure (.node ?_)
  exact List.forall_mem_cons.mpr ⟨testSlot, List.forall_mem_singleton.mpr (holdsBody.slot _)⟩

/-- A loop with its test last adds two levels. -/
theorem rises_doLoop :
    (doLoop expr statement).Yields fun tree => (ofStmt tree).Rises (levels + 4) := by
  refine yields_behind fun word => lowInner.bind fun body holdsBody => yields_behind fun _ => ?_
  refine (low_parenthesized low).bind fun test holdsTest => yields_behind fun _ => ?_
  have testSlot := (holdsTest.slot "Condition").mono (show levels + 1 ≤ levels + 3 by omega)
  refine yields_pure (.node ?_)
  exact List.forall_mem_cons.mpr ⟨holdsBody.slot _, List.forall_mem_singleton.mpr testSlot⟩

/-- A loop with a start adds three levels, since its start may be a list of declarations. -/
theorem rises_forLoop :
    (forLoop expr statement).Yields fun tree => (ofStmt tree).Rises (levels + 5) := by
  refine yields_behind fun word => yields_behind fun _ => ?_
  refine (rises_forStart low).bind fun start holdsStart => ?_
  refine (rises_simple low).bind fun test holdsTest => ?_
  refine (rises_forAction low).bind fun action holdsAction => yields_behind fun _ => ?_
  refine lowInner.bind fun body holdsBody => yields_pure (.node ?_)
  have grown {outline : Outline} (rises : outline.Rises (levels + 2)) (label : String) :
      (slot label outline).Rises (levels + 4) := (rises.slot label).mono (by omega)
  simp only [List.forall_mem_cons]
  exact ⟨holdsStart.slot _, grown holdsTest _, grown holdsAction _, grown holdsBody _,
    List.forall_mem_nil _⟩

/-- A case adds two levels to its statements. -/
theorem rises_case :
    (case expr statement).Yields fun tree => (ofCase tree).Rises (levels + 4) := by
  have label : caseLabel.Yields (Low 1) := by
    refine yields_behind fun kind => ?_
    split
    · exact yields_behind fun _ => yields_pure (rises_leaf _ _)
    · exact low_constant
  refine yields_behind fun _ => label.bind fun label holds => yields_behind fun _ => ?_
  refine (rises_items low lowInner _).bind fun body holdsBody => yields_pure (.node ?_)
  have labelLow := holds.mono (show 1 ≤ levels + 3 by omega)
  exact List.forall_mem_cons.mpr ⟨labelLow, List.forall_mem_singleton.mpr (.node holdsBody)⟩

/-- A default adds two levels to its statements. -/
theorem rises_fallback :
    (fallback expr statement).Yields fun body =>
      ∀ outline ∈ ofFallback body, outline.Rises (levels + 4) := by
  refine yields_behind fun kind => ?_
  split
  · refine yields_behind fun _ => yields_behind fun _ => ?_
    refine (rises_items low lowInner _).bind fun body holds => yields_pure ?_
    have compound : (Outline.node "Compound" (Stmt.listLocation? body) (ofStmts body)).Rises
        (levels + 3) := .node holds
    exact List.forall_mem_singleton.mpr (compound.slot _)
  · exact yields_pure (List.forall_mem_nil _)

/-- A choice between cases adds three levels to their statements. -/
theorem rises_switch :
    (switch expr statement).Yields fun tree => (ofStmt tree).Rises (levels + 5) := by
  refine yields_behind fun word => (low_parenthesized low).bind fun test holdsTest => ?_
  have testSlot := (holdsTest.slot "Condition").mono (show levels + 1 ≤ levels + 4 by omega)
  refine yields_behind fun _ => (rises_case low lowInner).many.bind fun cases holdsCases => ?_
  refine (rises_fallback low lowInner).bind fun last holdsLast => yields_behind fun _ => ?_
  refine yields_pure (.node ?_)
  rw [List.cons_append, List.forall_mem_cons, List.forall_mem_append, ofCases_eq_map]
  exact ⟨testSlot, List.forall_mem_map.mpr holdsCases, holdsLast⟩

include lowSum

/-- A statement adds three levels to what is inside. -/
theorem rises_statementOf :
    (statementOf expr sum statement).Yields fun tree => (ofStmt tree).Rises (levels + 5) := by
  have single {keyword : Keyword} {build : Token → Stmt}
      (leaf : ∀ token, (ofStmt (build token)).Rises 1) :
      (single keyword build).Yields fun tree => (ofStmt tree).Rises (levels + 5) := by
    refine yields_behind fun word => yields_behind fun _ => yields_pure ?_
    exact (leaf word).mono (by omega)
  refine yields_behind fun kind => ?_
  split
  · exact (rises_branch low lowInner).mono fun tree holds => holds.mono (by omega)
  · refine (rises_braced low lowInner).bind fun pair holds => yields_pure (.node ?_)
    exact fun outline member => (holds outline member).mono (by omega)
  · exact (rises_whileLoop low lowInner).mono fun tree holds => holds.mono (by omega)
  · exact (rises_doLoop low lowInner).mono fun tree holds => holds.mono (by omega)
  · exact rises_forLoop low lowInner
  · refine yields_behind fun word => yields_behind fun kind => ?_
    split
    · exact yields_behind fun _ => yields_pure ((rises_leaf _ _).mono (by omega))
    · refine low.bind fun value holds => yields_behind fun _ => yields_pure (.node ?_)
      exact List.forall_mem_singleton.mpr (holds.mono (by omega))
  · exact single fun _ => rises_leaf _ _
  · exact single fun _ => rises_leaf _ _
  · exact rises_switch low lowInner
  · have value : (printItem sum).Yields (Low (levels + 2)) := yields_behind fun _ => lowSum
    refine yields_behind fun word => value.bind fun first holdsFirst => ?_
    refine value.many.bind fun others holdsOthers => yields_behind fun _ => yields_pure (.node ?_)
    refine List.forall_mem_map.mpr fun tree member => ?_
    have holds := List.forall_mem_cons.mpr ⟨holdsFirst, holdsOthers⟩ tree member
    exact holds.mono (by omega)
  · refine (rises_simple low).bind fun part holds => yields_pure ?_
    exact holds.mono (by omega)

end Statements

/-- Each level of the budget allows a statement twelve levels. -/
theorem rises_statement (budget : Nat) :
    (statement budget).Yields fun tree => (ofStmt tree).Rises (12 * budget) := by
  induction budget with
  | zero => exact yields_tooDeep _
  | succ budget ih =>
    -- A simple statement may already add two levels to its expression, so the statements inside are
    -- granted as many; the outer one then needs five of the twelve.
    have inner := ih.mono fun tree holds => holds.mono (show 12 * budget ≤ 12 * budget + 2 by omega)
    refine (rises_statementOf (low_expr budget) (low_additive budget) inner).mono ?_
    exact fun tree holds => holds.mono (by omega)

/-! ## Programs -/

/-- The entry point adds two levels to its statements. -/
theorem rises_entryPoint (budget : Nat) :
    (entryPoint budget).Yields fun entry => (ofEntryPoint entry).Rises (12 * budget + 4) := by
  have inner := (rises_statement budget).mono fun tree holds =>
    holds.mono (show 12 * budget ≤ 12 * budget + 2 by omega)
  refine yields_behind fun _ => yields_behind fun name => yields_behind fun _ => ?_
  refine yields_behind fun _ => (rises_braced (low_expr budget) inner).bind fun pair holds => ?_
  exact yields_pure (.node (List.forall_mem_singleton.mpr (.node holds)))

/-- What stands before the entry point declares with the levels of its initial values. -/
theorem rises_opening (budget : Nat) :
    (opening budget).Yields fun part =>
      ∀ step ∈ part.steps, (ofDeclaration step).Rises (12 * budget + 2) := by
  refine yields_behind fun kind => ?_
  split
  · refine yields_behind fun _ => yields_behind fun _ => yields_behind fun space => ?_
    exact yields_behind fun _ => yields_pure (List.forall_mem_nil _)
  · refine yields_behind fun _ => yields_behind fun _ => yields_behind fun _ => ?_
    refine yields_behind fun header => yields_behind fun _ => ?_
    exact yields_pure (List.forall_mem_nil _)
  · exact (rises_declarations (low_expr budget)).bind fun steps holds => yields_pure holds

/-- A program has five levels more than its nesting allows. -/
theorem rises_program (budget : Nat) :
    (program budget).Yields fun tree => tree.outline.Rises (12 * budget + 5) := by
  have entryLow : (entryPoint? budget).Yields fun entry =>
      ∀ point ∈ entry, (ofEntryPoint point).Rises (12 * budget + 4) := by
    refine yields_behind fun atEntry => ?_
    split
    · refine (rises_entryPoint budget).bind fun entry holds => yields_pure ?_
      exact fun point same => Option.mem_some_iff.mp same ▸ holds
    · exact yields_pure fun point none => nomatch none
  refine (rises_opening budget).many.bind fun openings before => ?_
  refine entryLow.bind fun entry point => ?_
  refine (rises_declarations (low_expr budget)).many.bind fun after behind => ?_
  refine yields_pure (.node ?_)
  have deeper {outline : Outline} (rises : outline.Rises (12 * budget + 2)) :
      outline.Rises (12 * budget + 4) := rises.mono (by omega)
  simp only [List.forall_mem_append, List.forall_mem_map]
  refine ⟨⟨⟨⟨?_, ?_⟩, ?_⟩, ?_⟩, ?_⟩
  · exact fun header _ => (rises_leaf _ _).mono (by omega)
  · exact fun space _ => (rises_leaf _ _).mono (by omega)
  · intro step member
    obtain ⟨part, among, found⟩ := List.mem_flatMap.mp member
    exact deeper (before part among step found)
  · exact fun entry member => point entry (Option.mem_toList.mp member)
  · exact fun step member => deeper (List.forall_mem_flatten.mpr behind step member)

/-- A whole program has five levels more than its nesting allows. -/
theorem rises_wholeProgram (budget : Nat) :
    (wholeProgram budget).Yields fun tree => tree.outline.Rises (12 * budget + 5) := by
  refine (rises_program budget).bind fun tree holds => yields_behind fun kind => ?_
  split
  · exact yields_pure holds
  · exact yields_unexpected _

end Grammar

open Grammar (nestingLimit)

/-- The outline of a parsed program has as many levels as the nesting limit allows. -/
theorem Program.rises_of_parse {source : String} {program : Program}
    (parsed : parse source = .ok program) : program.outline.Rises (12 * nestingLimit + 5) := by
  obtain ⟨_, _, _, accepted, _⟩ := parse_ok parsed
  exact Grammar.rises_wholeProgram nestingLimit _ _ _ accepted

/-! ## Sums -/

open Cpplet.Parser (sample)

/-- A sum of integers, with as many plus signs as asked for. -/
def summands : Nat → List Token
  | 0 => [sample .integer]
  | signs + 1 => summands signs ++ [sample (.mark .plus), sample .integer]

/-- The tokens of a program that declares a variable with a sum as its value. -/
def sumTokens (signs : Nat) : List Token :=
  [sample (.keyword .intWord), sample .name, sample (.mark .assign)] ++
    (summands signs ++ [sample (.mark .semicolon)])

/-- The text of a program that declares a variable with a sum as its value. -/
def sumSource (signs : Nat) : String :=
  String.ofList ((sumTokens signs).flatMap (' ' :: ·.text.toList))

/-- Tokens that agree with a sum write a chain of operations, and open one level only. -/
theorem exists_sum {signs : Nat} {found : List Token}
    (same : found.map Token.content = (summands signs).map Token.content) :
    ∃ tree, Writes 9 found tree 1 ∧ (Outline.ofExpr tree).chain = signs := by
  have leaf {token : Token} (kind : token.kind = .integer) :
      Writes Rank.cast [token] (.number token) 1 :=
    .operand (.tighter (by decide) (.tighter (by decide) (.number (.inl kind))))
  induction signs generalizing found with
  | zero =>
    obtain ⟨token, rfl, content⟩ := List.map_eq_singleton_iff.mp same
    exact ⟨.number token, (leaf (congrArg Prod.fst content)).loosen (by decide) 9 (by decide), rfl⟩
  | succ signs ih =>
    rw [summands, List.map_append] at same
    obtain ⟨front, behind, rfl, sameFront, sameBehind⟩ := List.map_eq_append_iff.mp same
    obtain ⟨op, last, rfl, contentOp, sameLast⟩ := List.map_eq_cons_iff.mp sameBehind
    obtain ⟨token, rfl, content⟩ := List.map_eq_singleton_iff.mp sameLast
    obtain ⟨tree, writes, long⟩ := ih sameFront
    have operand := (leaf (congrArg Prod.fst content)).loosen (by decide) 10 (by decide)
    refine ⟨_, .binary writes (congrArg Prod.fst contentOp) rfl operand, ?_⟩
    rw [Outline.ofExpr, Outline.chain, if_pos (Outline.joins_binOp op.text), long]

namespace Grammar

open Cpplet.Parser

variable {type target assign semicolon : Token} {value : List Token} {tree : Expr}
  {cost budget : Nat}

/-- A declaration of one variable with a value is read, if the budget lasts for the value. -/
theorem declarations_initial (typed : type.kind.isType = true) (named : target.kind = .name)
    (assigns : assign.kind = .mark .assign) (ends : semicolon.kind = .mark .semicolon)
    (writes : Writes Rank.choice value tree cost) (enough : cost + 1 ≤ budget) (follow : Feed) :
    declarations (expr budget) ([type, target, assign] ++ (value ++ Feed.more semicolon follow)) =
      .accepted [.declare ⟨type, false⟩ target, .initial target assign tree] follow := by
  have plain : type.kind ≠ .keyword .constWord := by
    intro same
    rw [same] at typed
    cases typed
  have back : expr budget (value ++ Feed.more semicolon follow) =
      .accepted tree (.more semicolon follow) :=
    (expr_of_writes writes (by rw [Feed.kind_more, ends]; rfl) budget).1 enough
  have alone : ParserLike.manyAt (.mark .comma) (nextDeclarator (expr budget) ⟨type, false⟩)
      (.more semicolon follow) = .accepted [] (.more semicolon follow) :=
    many_stop (by simp [ends])
  simp [declarations, typeName, plain, typeWord, satisfy_more typed, declarator, name,
    eat_more named, assigns, mark_more assigns, back, alone, mark_more ends]

/-- A declaration of one variable with a value is a program, if the budget lasts for the value. -/
theorem wholeProgram_initial (typed : type.kind = .keyword .intWord) (named : target.kind = .name)
    (assigns : assign.kind = .mark .assign) (ends : semicolon.kind = .mark .semicolon)
    (writes : Writes Rank.choice value tree cost) (enough : cost + 1 ≤ budget)
    (location : Location) :
    wholeProgram budget ([type, target, assign] ++ (value ++ [semicolon]) ++ Feed.eof location) =
      .accepted ⟨[], [], [.declare ⟨type, false⟩ target, .initial target assign tree], none, []⟩
        (.eof location) := by
  have isType : type.kind.isType = true := by rw [typed]; rfl
  have declared := declarations_initial isType named assigns ends writes enough (.eof location)
  have opens : openingOf (expr budget) ([type, target, assign] ++ (value ++ Feed.more semicolon
      (.eof location))) = .accepted (.declares
        [.declare ⟨type, false⟩ target, .initial target assign tree]) (.eof location) := by
    have kind : ([type, target, assign] ++ (value ++ Feed.more semicolon (.eof location))).kind =
        .keyword .intWord := typed
    simp only [openingOf, ParserLike.liftM_self, bind_apply, kind_apply, Outcome.accepted_andThen,
      kind, declared, pure_apply]
  have goes : atOpening ([type, target, assign] ++ (value ++ Feed.more semicolon (.eof location))) =
      true := by
    simp [atOpening, atDeclaration, isType, entryAhead, Feed.startsWith, isKind, assigns]
  have openings : many atOpening (openingOf (expr budget)) _ = _ :=
    many_cons (shrinks_opening budget) goes opens (many_stop rfl)
  have noEntry : entryPointOf? (expr budget) (statement budget) (.eof location) =
      .accepted none (.eof location) := rfl
  have noMore : many atDeclaration (declarations (expr budget)) (.eof location) =
      .accepted [] (.eof location) := many_stop rfl
  have whole : [type, target, assign] ++ (value ++ [semicolon]) ++ Feed.eof location =
      [type, target, assign] ++ (value ++ Feed.more semicolon (.eof location)) := by
    rw [Feed.append_append, Feed.append_append]
    rfl
  rw [whole]
  simp only [wholeProgram, wholeProgramOf, programOf, ParserLike.liftM_self, ParserLike.many_self,
    bind_apply, openings, Outcome.accepted_andThen, noEntry, noMore, kind_apply, Feed.kind_eof,
    if_true, pure_apply]
  rfl

end Grammar

/-- All tokens of a sum can be printed. -/
theorem printable_summands (signs : Nat) : ∀ token ∈ summands signs, Printable token := by
  have integer : Printable (sample .integer) := .integer (by decide) (by decide) .start
  have plus : Printable (sample (.mark .plus)) := .fixed rfl .start
  induction signs with
  | zero => exact List.forall_mem_singleton.mpr integer
  | succ signs ih =>
    refine List.forall_mem_append.mpr ⟨ih, List.forall_mem_cons.mpr ⟨plus, ?_⟩⟩
    exact List.forall_mem_singleton.mpr integer

/-- The text of a program with a sum is read as its tokens. -/
theorem tokenize_sumSource (signs : Nat) :
    ∃ found location, tokenize (sumSource signs) = .ok (found ++ [.eof location]) ∧
      found.map Token.content = (sumTokens signs).map Token.content := by
  have int : Printable (sample (.keyword .intWord)) := .fixed rfl .start
  have mark (symbol : Mark) : Printable (.fixed (.mark symbol) .start) := .fixed rfl .start
  have name : Printable (sample .name) :=
    @Printable.name 'x' [] (by decide) (by simp) (by intro word; cases word <;> decide) .start
  have printable : ∀ token ∈ sumTokens signs, Printable token := by
    simp only [sumTokens, List.forall_mem_append, List.forall_mem_cons]
    exact ⟨⟨int, name, mark .assign, List.forall_mem_nil _⟩, printable_summands signs,
      mark .semicolon, List.forall_mem_nil _⟩
  obtain ⟨found, location, scanned, same⟩ := Printed.flatMap printable .start
  refine ⟨found, location, tokenize_eq_ok_iff.mpr ?_, same⟩
  rw [sumSource, String.toList_ofList]
  exact scanned

/-- A program with a sum is parsed, and its outline has a chain as long as the sum. -/
theorem parse_sumSource (signs : Nat) :
    ∃ program, parse (sumSource signs) = .ok program ∧ signs ≤ program.outline.longestChain := by
  obtain ⟨found, location, listed, same⟩ := tokenize_sumSource signs
  obtain ⟨body, last, read, whole⟩ := feed_of_tokenize listed
  obtain ⟨rfl, sameEnd⟩ := List.append_inj' whole rfl
  rw [sameEnd] at listed
  rw [sumTokens, List.map_append, List.map_append] at same
  obtain ⟨front, others, rfl, sameFront, sameOthers⟩ := List.map_eq_append_iff.mp same
  obtain ⟨value, last, rfl, sameValue, sameLast⟩ := List.map_eq_append_iff.mp sameOthers
  obtain ⟨type, rest, rfl, contentType, sameRest⟩ := List.map_eq_cons_iff.mp sameFront
  obtain ⟨target, rest, rfl, contentTarget, sameRest⟩ := List.map_eq_cons_iff.mp sameRest
  obtain ⟨assign, rfl, contentAssign⟩ := List.map_eq_singleton_iff.mp sameRest
  obtain ⟨semicolon, rfl, contentLast⟩ := List.map_eq_singleton_iff.mp sameLast
  obtain ⟨tree, writes, long⟩ := exists_sum sameValue
  have accepted := Grammar.wholeProgram_initial (congrArg Prod.fst contentType)
    (congrArg Prod.fst contentTarget) (congrArg Prod.fst contentAssign)
    (congrArg Prod.fst contentLast) (writes.loosen (by decide) 0 (by decide))
    (show 1 + 1 ≤ nestingLimit by decide)
  refine ⟨_, (parse_of_listed listed read).1 _ _ (accepted _), ?_⟩
  -- The sum stands below the assignment, and that below the program.
  have start := Outline.chain_le_longestChain (Outline.ofExpr tree)
  have inAssignment : (Outline.ofExpr tree).longestChain ≤
      (Outline.ofAssignment target assign tree).longestChain :=
    Outline.longestChain_child_le _ _ (List.mem_cons_of_mem _ List.mem_cons_self)
  refine Nat.le_trans (long ▸ Nat.le_trans start inAssignment) ?_
  exact Outline.longestChain_child_le _ _ (List.mem_cons_of_mem _ List.mem_cons_self)

/-- The depth of the outline of a parsed program is the length of its longest chain of operations,
each the left operand of the one before it, up to a factor that is the same for all programs. -/
theorem depth_grows_with_chains {source : String} {program : Program}
    (parsed : parse source = .ok program) :
    (∀ row ∈ program.outline.rows,
      row.depth < (12 * nestingLimit + 5) * (program.outline.longestChain + 1)) ∧
    ∃ row ∈ program.outline.rows, program.outline.longestChain ≤ row.depth := by
  have rises := Program.rises_of_parse parsed
  constructor
  · intro row member
    have within := rises.depth_le (Nat.le_refl _) row member
    have start := Outline.chain_le_longestChain program.outline
    omega
  · obtain ⟨row, member, deep⟩ :=
      Outline.exists_depth_ge_of_mem [program.outline] 0 program.outline List.mem_cons_self
    exact ⟨row, member, by omega⟩

/-- The sum of four terms is a chain of three operations, and the deepest row is deeper still. -/
theorem depth_grows_with_chains_sum :
    ∃ program, parse "int x=a+b*c+d-e;" = .ok program ∧ program.outline.longestChain = 3 ∧
      (∀ row ∈ program.outline.rows, row.depth < (12 * nestingLimit + 5) * (3 + 1)) ∧
      ∃ row ∈ program.outline.rows, 3 ≤ row.depth := by
  obtain ⟨program, parsed, longest⟩ :
      ∃ program, parse "int x=a+b*c+d-e;" = .ok program ∧ program.outline.longestChain = 3 :=
    ⟨_, by cbv, by decide⟩
  have both := depth_grows_with_chains parsed
  rw [longest] at both
  exact ⟨program, parsed, longest, both⟩

/-- No number bounds the depth of the outlines of all parsed programs. -/
theorem not_exists_depth_bound :
    ¬ ∃ bound : Nat, ∀ (source : String) (program : Program), parse source = .ok program →
      ∀ row ∈ program.outline.rows, row.depth ≤ bound := by
  rintro ⟨bound, bounds⟩
  obtain ⟨program, parsed, long⟩ := parse_sumSource (bound + 1)
  obtain ⟨row, member, deep⟩ :=
    Outline.exists_depth_ge_of_mem [program.outline] 0 program.outline List.mem_cons_self
  have within := bounds _ program parsed row member
  omega

end Cpplet

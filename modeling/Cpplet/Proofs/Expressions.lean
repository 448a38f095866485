import Cpplet.Proofs.Writing

/-!
# Expressions are read as they are written

Every parser of an expression reads what is written at its rank: it accepts nothing else, and
where it rejects, the tokens that it passed begin an expression of that rank. The parsers of one
expression inside another are arguments here, so that each parser is looked at alone; the budget
is then taken away level by level.
-/

namespace Cpplet.Grammar

open Cpplet.Parser

/-- Being one of some marks, spelled out. -/
theorem isOneOf_iff {marks : List Mark} {kind : Kind} :
    isOneOf marks kind = true ↔ ∃ symbol, kind = .mark symbol ∧ symbol ∈ marks := by
  cases kind <;> simp [isOneOf]

/-- The binary operators of a level are those of one tightness. -/
theorem mem_binaryLevels (index : Nat) (symbol : Mark) :
    symbol ∈ binaryLevels.getD index [] ↔ symbol.tightness = some (index + 1) := by
  match index with
  | 0 | 1 | 2 | 3 | 4 | 5 | 6 | 7 | 8 | 9 => cases symbol <;> decide
  | index + 10 => cases symbol <;> simp [binaryLevels, Mark.tightness]

/-- The first of the levels that are left is the one at their index. -/
theorem drop_binaryLevels {index : Nat} (bound : index < 10) :
    binaryLevels.drop index = binaryLevels.getD index [] :: binaryLevels.drop (index + 1) := by
  match index with
  | 0 | 1 | 2 | 3 | 4 | 5 | 6 | 7 | 8 | 9 => rfl
  | index + 10 => omega

/-- The marks that are read as steps. -/
theorem isOneOf_stepMarks {kind : Kind} :
    isOneOf stepMarks kind = true ↔ ∃ symbol, kind = .mark symbol ∧ symbol.isStep = true := by
  have same : ∀ symbol, symbol ∈ stepMarks ↔ symbol.isStep = true := by
    intro symbol
    cases symbol <;> decide
  simp only [isOneOf_iff, same]

/-- The marks that are read as signs. -/
theorem isOneOf_signMarks {kind : Kind} :
    isOneOf signMarks kind = true ↔ ∃ symbol, kind = .mark symbol ∧ symbol.isSign = true := by
  have same : ∀ symbol, symbol ∈ signMarks ↔ symbol.isSign = true := by
    intro symbol
    cases symbol <;> decide
  simp only [isOneOf_iff, same]

/-- A variable is read as a name. -/
theorem reads_name : Reads name (Language.one .name) := reads_eat (by decide)

/-- A word that names a type is read. -/
theorem reads_typeWord : Reads typeWord (Language.token Kind.isType) :=
  @reads_satisfy _ (by decide) (.keyword .intWord) (by decide) _

/-- Something can be written at every rank. -/
theorem opens_written {rank : Nat} (bound : rank ≤ Rank.primary) : (written rank).Opens [] := by
  have leaf : Writes Rank.primary [sample .name] (.name (sample .name)) 0 := .name (kind_sample _)
  have step : Writes Rank.step [sample .name] (.name (sample .name)) 0 := .tighter (by decide) leaf
  have sign : Writes Rank.sign [sample .name] (.name (sample .name)) 0 := .tighter (by decide) step
  by_cases loose : rank ≤ Rank.cast
  · exact Language.opens_nil ⟨1, sign.operand.loosen (Nat.le_refl _) rank loose⟩
  · obtain rfl | rfl | rfl : rank = Rank.sign ∨ rank = Rank.step ∨ rank = Rank.primary := by
      simp only [Rank.cast, Rank.sign, Rank.step, Rank.primary] at *
      omega
    · exact Language.opens_nil ⟨0, sign⟩
    · exact Language.opens_nil ⟨0, step⟩
    · exact Language.opens_nil ⟨0, leaf⟩

/-- Moving past a lookahead of a kind and building something of it. -/
theorem fits_leaf {kind : Kind} (inner : kind ≠ .eof) {build : Token → Expr}
    {language : Language Expr}
    (member : ∀ token, token.kind = kind → language [token] (build token)) {feed : Feed}
    (same : feed.kind = kind) :
    ((do return build (← advance) : Parser Expr) feed).Fits language feed := by
  have ends : decide (Kind.eof = kind) = false := by simpa using inner.symm
  have fits : (advance feed).Fits (Language.token (· = kind)) feed :=
    fits_advance ends (by simp [same])
  rw [bind_apply]
  refine (fits.andThen (fun token => (reads_pure (build token)).opens)
    fun token => (reads_pure (build token)).fits).mono ?_
  rintro tokens expr ⟨front, token, behind, rfl, ⟨rfl, passes⟩, rfl, rfl⟩
  exact member token (by simpa using passes)

/-- The constants. -/
def constants : Language Expr := fun tokens expr =>
  ∃ token, tokens = [token] ∧ token.kind ≠ .name ∧ Writes Rank.primary [token] expr 0

/-- Constants are read. -/
theorem reads_constant : Reads constant constants := by
  have opens : constants.Opens [] :=
    Language.opens_nil ⟨sample .integer, rfl, by decide, .number (.inl rfl)⟩
  unfold constant
  refine reads_kind_bind opens fun feed => ?_
  generalize same : feed.kind = kind
  split
  · exact fits_leaf (by decide)
      (fun token kind => ⟨token, rfl, by simp [kind], .number (.inl kind)⟩) same
  · exact fits_leaf (by decide)
      (fun token kind => ⟨token, rfl, by simp [kind], .number (.inr (.inl kind))⟩) same
  · exact fits_leaf (by decide)
      (fun token kind => ⟨token, rfl, by simp [kind], .number (.inr (.inr kind))⟩) same
  · exact fits_leaf (by decide)
      (fun token kind => ⟨token, rfl, by simp [kind], .string kind⟩) same
  · exact fits_leaf (by decide)
      (fun token kind => ⟨token, rfl, by simp [kind], .truth (.inl kind)⟩) same
  · exact fits_leaf (by decide)
      (fun token kind => ⟨token, rfl, by simp [kind], .truth (.inr kind)⟩) same
  · exact fits_unexpected opens _ _

section Parts

variable {expr operand : Parser Expr}

/-- What needs no parentheses is read. -/
theorem reads_primary (inner : expr.Reads (written Rank.choice)) :
    Reads (primary expr) (written Rank.primary) := by
  have opens : (written Rank.primary).Opens [] := opens_written (Nat.le_refl _)
  have constants : Reads constant (written Rank.primary) := by
    refine reads_constant.mono ?_
    rintro tokens expr ⟨token, rfl, -, writes⟩
    exact ⟨0, writes⟩
  unfold primary
  refine reads_kind_bind opens fun feed => ?_
  generalize same : feed.kind = kind
  split
  · have reads := (reads_mark .leftParen).bind fun _ => inner.bind fun value =>
      (reads_mark .rightParen).bind fun _ => reads_pure value
    refine (reads.fits feed).mono ?_
    rintro tokens expr ⟨_, left, _, rfl, ⟨rfl, opening⟩, front, value, _, rfl, ⟨cost, writes⟩,
      _, right, _, rfl, ⟨rfl, closing⟩, rfl, rfl⟩
    exact ⟨cost + 1, .paren opening writes closing⟩
  · have reads := reads_name.bind fun token => reads_pure (Expr.name token)
    refine (reads.fits feed).mono ?_
    rintro tokens expr ⟨_, token, _, rfl, ⟨rfl, kind⟩, rfl, rfl⟩
    exact ⟨0, .name kind⟩
  rotate_right
  · exact fits_unexpected opens _ _
  all_goals exact constants.fits feed

/-- A primary expression with or without a step behind it is read. -/
theorem reads_stepped (inner : expr.Reads (written Rank.choice)) :
    Reads (stepped expr) (written Rank.step) := by
  have opens : (written Rank.step).Opens [] := opens_written (by decide)
  -- Behind the operand stands a step or nothing; both continue it to something written.
  let tail (value : Expr) : Language Expr := fun tokens expr =>
    (tokens = [] ∧ expr = value) ∨
      ∃ op symbol, tokens = [op] ∧ op.kind = .mark symbol ∧ symbol.isStep = true ∧
        expr = .postStep value op
  have opensTail : ∀ value, (tail value).Opens [] :=
    fun value => Language.opens_nil (.inl ⟨rfl, rfl⟩)
  unfold stepped
  refine ((reads_primary inner).bind fun value => reads_kind_bind (opensTail value) ?_).mono ?_
  · intro feed
    by_cases steps : isOneOf stepMarks feed.kind = true
    · obtain ⟨symbol, kind, step⟩ := isOneOf_stepMarks.mp steps
      rw [if_pos steps]
      exact fits_leaf (by simp)
        (fun op same => .inr ⟨op, symbol, rfl, same, step, rfl⟩) kind
    · rw [if_neg steps]
      exact ((reads_pure value).fits feed).mono fun tokens expr same => .inl same
  · rintro tokens expr ⟨front, value, _, rfl, ⟨cost, writes⟩, ⟨rfl, rfl⟩ |
      ⟨op, symbol, rfl, kind, step, rfl⟩⟩
    · rw [List.append_nil]
      exact ⟨cost, .tighter (by decide) writes⟩
    · exact ⟨cost, .postStep writes kind step⟩

/-- Moving past a lookahead that is one of some marks. -/
theorem fits_advance_mark {marks : List Mark} {feed : Feed}
    (passes : isOneOf marks feed.kind = true) :
    (advance feed).Fits (Language.token (isOneOf marks)) feed :=
  fits_advance rfl passes

/-- An expression that may begin with a step or a sign is read. -/
theorem reads_signed (inner : expr.Reads (written Rank.choice))
    (tight : operand.Reads (written Rank.cast)) :
    Reads (signed expr operand) (written Rank.sign) := by
  unfold signed
  refine reads_kind_bind (opens_written (by decide)) fun feed => ?_
  by_cases steps : isOneOf stepMarks feed.kind = true
  · rw [if_pos steps, bind_apply]
    have reads := fun op =>
      (reads_stepped inner).bind fun value => reads_pure (Expr.preStep op value)
    refine ((fits_advance_mark steps).andThen (fun op => (reads op).opens)
      fun op => (reads op).fits).mono ?_
    rintro tokens expr ⟨_, op, _, rfl, ⟨rfl, step⟩, front, value, _, rfl, ⟨cost, writes⟩, rfl, rfl⟩
    obtain ⟨symbol, kind, step⟩ := isOneOf_stepMarks.mp step
    rw [List.append_nil]
    exact ⟨cost, .preStep kind step writes⟩
  · rw [if_neg steps]
    by_cases signs : isOneOf signMarks feed.kind = true
    · rw [if_pos signs, bind_apply]
      have reads := fun op => tight.bind fun value => reads_pure (Expr.unary op value)
      refine ((fits_advance_mark signs).andThen (fun op => (reads op).opens)
        fun op => (reads op).fits).mono ?_
      rintro tokens expr ⟨_, op, _, rfl, ⟨rfl, sign⟩, front, value, _, rfl, ⟨cost, writes⟩, rfl,
        rfl⟩
      obtain ⟨symbol, kind, sign⟩ := isOneOf_signMarks.mp sign
      rw [List.append_nil]
      exact ⟨cost, .unary kind sign writes⟩
    · rw [if_neg signs]
      refine ((reads_stepped inner).fits feed).mono ?_
      rintro tokens expr ⟨cost, writes⟩
      exact ⟨cost, .tighter (by decide) writes⟩

/-- An operand of a binary operator is read. -/
theorem reads_castOr (inner : expr.Reads (written Rank.choice))
    (tight : operand.Reads (written Rank.cast)) :
    Reads (castOr expr operand) (written Rank.cast) := by
  unfold castOr
  refine reads_ahead_ite ?_ (reads_ahead_ite ?_ ?_)
  · refine ((reads_mark .leftParen).bind fun _ => reads_typeWord.bind fun type =>
      (reads_mark .rightParen).bind fun _ => tight.bind fun value =>
        reads_pure (Expr.cast type value)).mono ?_
    rintro tokens expr ⟨_, left, _, rfl, ⟨rfl, opening⟩, _, type, _, rfl, ⟨rfl, kind⟩, _, right, _,
      rfl, ⟨rfl, closing⟩, front, value, _, rfl, ⟨cost, writes⟩, rfl, rfl⟩
    rw [List.append_nil]
    exact ⟨cost + 1, .cast opening kind closing writes⟩
  · refine (reads_typeWord.bind fun type => (reads_mark .leftParen).bind fun _ =>
      inner.bind fun value => (reads_mark .rightParen).bind fun _ =>
        reads_pure (Expr.cast type value)).mono ?_
    rintro tokens expr ⟨_, type, _, rfl, ⟨rfl, kind⟩, _, left, _, rfl, ⟨rfl, opening⟩, front, value,
      _, rfl, ⟨cost, writes⟩, _, right, _, rfl, ⟨rfl, closing⟩, rfl, rfl⟩
    exact ⟨cost + 2, .call kind opening writes closing⟩
  · refine (reads_signed inner tight).mono ?_
    rintro tokens expr ⟨cost, writes⟩
    exact ⟨cost + 1, writes.operand⟩

/-- The operators of a rank, each with the operand behind it. -/
def operations (rank : Nat) : Language (Token × Expr) := fun tokens found =>
  ∃ symbol behind cost, tokens = found.1 :: behind ∧ found.1.kind = .mark symbol ∧
    symbol.tightness = some rank ∧ Writes (rank + 1) behind found.2 cost

/-- Operators of a rank behind an expression of that rank join to it from the left. -/
theorem written_joinLeft {rank : Nat} {front tokens : List Token} {first : Expr}
    {others : List (Token × Expr)} (writes : written rank front first)
    (behind : Language.Star (operations rank) tokens others) :
    written rank (front ++ tokens) (joinLeft first others) := by
  induction behind generalizing front first with
  | nil =>
    rw [List.append_nil]
    exact writes
  | cons operation others ih =>
    obtain ⟨symbol, behind, costRight, rfl, kind, tight, right⟩ := operation
    obtain ⟨costLeft, left⟩ := writes
    have joined := ih ⟨_, .binary left kind tight right⟩
    rwa [List.append_assoc] at joined

/-- An operator of a level and the operand behind it are read. -/
theorem fits_operation {index : Nat} (tight : operand.Reads (written (index + 2))) (feed : Feed)
    (passes : isOneOf (binaryLevels.getD index []) feed.kind = true) :
    (operation operand feed).Fits (operations (index + 1)) feed := by
  have reads := fun op : Token => tight.bind fun value => reads_pure (op, value)
  unfold operation
  rw [bind_apply]
  refine ((fits_advance_mark passes).andThen (fun op => (reads op).opens)
    fun op => (reads op).fits).mono ?_
  rintro tokens found ⟨_, op, _, rfl, ⟨rfl, one⟩, behind, value, _, rfl, ⟨cost, writes⟩, rfl, rfl⟩
  obtain ⟨symbol, kind, member⟩ := isOneOf_iff.mp one
  rw [List.append_nil]
  exact ⟨symbol, behind, cost, rfl, kind, (mem_binaryLevels index symbol).mp member, writes⟩

/-- An operator and its operand are never without tokens. -/
theorem operations_ne_nil {rank : Nat} (tokens : List Token) (found : Token × Expr)
    (member : operations rank tokens found) : tokens ≠ [] := by
  obtain ⟨symbol, behind, cost, rfl, -⟩ := member
  simp

/-- Every round of joining operands takes a token. -/
theorem shrinks_operation {index : Nat} (tight : operand.Reads (written (index + 2))) :
    Shrinks (fun feed => isOneOf (binaryLevels.getD index []) feed.kind) (operation operand) :=
  shrinks_of_fits (fits_operation tight) operations_ne_nil

/-- Operands with operators of one rank between them are read. -/
theorem reads_level {index : Nat} (bound : index < 10)
    (tight : operand.Reads (written (index + 2))) :
    Reads (level (binaryLevels.getD index []) operand) (written (index + 1)) := by
  unfold level
  refine (tight.bind fun first => (reads_many (fits_operation tight) operations_ne_nil).bind
    fun others => reads_pure (joinLeft first others)).mono ?_
  rintro tokens expr ⟨front, first, _, rfl, ⟨cost, writes⟩, behind, others, _, rfl, star, rfl, rfl⟩
  rw [List.append_nil]
  exact written_joinLeft ⟨cost, .tighter (by simp only [Rank.cast]; omega) writes⟩ star

/-- Operands with binary operators of a rank or a tighter one between them are read. -/
theorem reads_ladder (tight : operand.Reads (written Rank.cast)) (index : Nat)
    (bound : index ≤ 10) :
    Reads (ladder operand (binaryLevels.drop index)) (written (index + 1)) := by
  -- The levels are left one by one from the tightest, so the induction runs down from ten.
  induction left : 10 - index generalizing index with
  | zero =>
    obtain rfl : index = 10 := by omega
    exact tight
  | succ left ih =>
    rw [drop_binaryLevels (by omega)]
    exact reads_level (by omega) (ih (index + 1) (by omega) (by omega))

/-- An expression with binary operators, and a choice behind it, is read. -/
theorem reads_conditional (inner : expr.Reads (written Rank.choice))
    (tight : operand.Reads (written Rank.cast)) :
    Reads (conditional expr operand) (written Rank.choice) := by
  -- Behind the condition stands the rest of a choice or nothing.
  let tail (condition : Expr) : Language Expr := fun tokens expr =>
    (tokens = [] ∧ expr = condition) ∨
      ∃ question colon middle behind whenTrue whenFalse,
        tokens = question :: (middle ++ colon :: behind) ∧
        question.kind = .mark .question ∧ colon.kind = .mark .colon ∧
        written Rank.choice middle whenTrue ∧ written Rank.choice behind whenFalse ∧
        expr = .conditional condition whenTrue whenFalse
  have reads : ∀ condition, Reads (do
      if (← kind) = .mark .question then
        let _ ← mark .question
        let whenTrue ← expr
        let _ ← mark .colon
        return .conditional condition whenTrue (← expr)
      else return condition) (tail condition) := by
    intro condition
    refine reads_kind_ite ?_ ((reads_pure condition).mono fun tokens expr same => .inl same)
    refine ((reads_mark .question).bind fun _ => inner.bind fun whenTrue =>
      (reads_mark .colon).bind fun _ => inner.bind fun whenFalse =>
        reads_pure (Expr.conditional condition whenTrue whenFalse)).mono ?_
    rintro tokens expr ⟨_, question, _, rfl, ⟨rfl, asks⟩, middle, whenTrue, _, rfl, first, _, colon,
      _, rfl, ⟨rfl, parts⟩, behind, whenFalse, _, rfl, second, rfl, rfl⟩
    rw [List.append_nil]
    exact .inr ⟨question, colon, middle, behind, whenTrue, whenFalse, rfl, asks, parts, first,
      second, rfl⟩
  have test : Reads (ladder operand binaryLevels) (written 1) := reads_ladder tight 0 (by omega)
  unfold conditional
  refine (test.bind reads).mono ?_
  rintro tokens expr ⟨front, condition, _, rfl, ⟨cost, writes⟩, ⟨rfl, rfl⟩ |
    ⟨question, colon, middle, behind, whenTrue, whenFalse, rfl, asks, parts, ⟨costTrue, first⟩,
      ⟨costFalse, second⟩, rfl⟩⟩
  · rw [List.append_nil]
    exact ⟨cost, .tighter (by decide) writes⟩
  · exact ⟨_, .conditional writes asks first parts second⟩

end Parts

/-- Expressions and operands are read, whatever the budget. -/
theorem reads_expr_operand (budget : Nat) :
    Reads (expr budget) (written Rank.choice) ∧ Reads (operand budget) (written Rank.cast) := by
  induction budget with
  | zero =>
    constructor
    · rw [expr]
      exact reads_tooDeep (opens_written (by decide)) _
    · rw [operand]
      exact reads_tooDeep (opens_written (by decide)) _
  | succ budget ih =>
    constructor
    · rw [expr]
      exact reads_conditional ih.1 ih.2
    · rw [operand]
      exact reads_castOr ih.1 ih.2

/-- Expressions are read, whatever the budget. -/
theorem reads_expr (budget : Nat) : Reads (expr budget) (written Rank.choice) :=
  (reads_expr_operand budget).1

/-- Operands are read, whatever the budget. -/
theorem reads_operand (budget : Nat) : Reads (operand budget) (written Rank.cast) :=
  (reads_expr_operand budget).2

/-- Sums are read, whatever the budget. -/
theorem reads_additive (budget : Nat) : Reads (additive budget) (written Rank.additive) :=
  reads_ladder (reads_operand budget) 8 (by omega)

end Cpplet.Grammar

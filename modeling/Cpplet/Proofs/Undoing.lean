import Cpplet.Grammar.Program
import Cpplet.Proofs.Expressions

/-!
# Reading an expression undoes writing it

What is written at a rank is read back by the parser of that rank: as the expression that was
written, with everything behind it left, if the budget covers the cost of the writing, and
otherwise with the complaint that expressions are nested too deeply. The parser must not be able
to go on with the token behind the writing, which is the case at every place where an expression
ends.

Binary operators join from the left, while the parser of a rank reads an operand and then goes on
in a loop. So the induction says of a binary rank what has been read when the loop is entered
(`joinsOn`), which holds also where the next operator is of the same rank.
-/

namespace Cpplet

/-- Whether what is written at a rank goes on with a token of a kind. -/
def Kind.continues (rank : Nat) : Kind → Bool
  | .mark symbol =>
    (symbol.isStep && decide (rank ≤ Rank.step)) ||
      symbol.tightness.any (fun tight => decide (rank ≤ tight)) ||
        (decide (symbol = .question) && decide (rank = Rank.choice))
  | _ => false

/-- A token goes on with what is written at a rank only at that rank or a looser one. -/
theorem Kind.continues_mono {kind : Kind} {loose tight : Nat} (below : loose ≤ tight)
    (ends : kind.continues loose = false) : kind.continues tight = false := by
  cases kind with
  | mark symbol =>
    simp only [Kind.continues, Bool.or_eq_false_iff, Bool.and_eq_false_iff,
      decide_eq_false_iff_not] at ends ⊢
    obtain ⟨⟨step, binary⟩, question⟩ := ends
    refine ⟨⟨step.imp_right (by omega), ?_⟩, ?_⟩
    · cases found : symbol.tightness with
      | none => rfl
      | some rank =>
        rw [found] at binary
        simp only [Option.any_some, decide_eq_false_iff_not] at binary ⊢
        omega
    · rcases question with other | above
      · exact .inl other
      · exact .inr (by simp only [Rank.choice] at *; omega)
  | _ => rfl

/-- From the rank of casts to that of steps only a step goes on. -/
theorem Kind.continues_cast (kind : Kind) :
    kind.continues Rank.cast = kind.continues Rank.step ∧
      kind.continues Rank.sign = kind.continues Rank.step := by
  cases kind with
  | mark symbol => cases symbol <;> decide
  | _ => exact ⟨rfl, rfl⟩

/-- A step does not go on with what needs no parentheses. -/
theorem Mark.continues_of_isStep {symbol : Mark} (step : symbol.isStep = true) :
    (Kind.mark symbol).continues Rank.primary = false := by
  revert step
  cases symbol <;> decide

/-- A binary operator does not go on with what binds tighter than it. -/
theorem Mark.continues_of_tightness {symbol : Mark} {rank : Nat}
    (tight : symbol.tightness = some rank) :
    (Kind.mark symbol).continues (rank + 1) = false := by
  cases symbol <;> simp [Mark.tightness] at tight <;> subst tight <;> decide

/-- The kinds that are an expression in themselves. -/
def Kind.isLeaf : Kind → Bool
  | .name | .integer | .float | .char | .string => true
  | .keyword .trueWord | .keyword .falseWord => true
  | _ => false

/-- What is an expression in itself names no type. -/
theorem Kind.isType_of_isLeaf {kind : Kind} (leaf : kind.isLeaf = true) : kind.isType = false := by
  cases kind with
  | keyword word => cases word <;> simp_all [Kind.isLeaf, Kind.isType, Keyword.isType]
  | _ => rfl

/-- No binary operator binds as tightly as a cast. -/
theorem Mark.tightness_bounds {symbol : Mark} {rank : Nat} (tight : symbol.tightness = some rank) :
    1 ≤ rank ∧ rank ≤ 10 := by
  cases symbol <;> simp [Mark.tightness] at tight <;> omega

/-- How a writing begins. A type stands only before a parenthesis, or alone between two at the
rank of casts, so that three tokens of lookahead tell casts from everything else. -/
inductive Begins (rank : Nat) : List Token → Prop where
  /-- A name or a constant. -/
  | leaf {token : Token} {behind : List Token} (kind : token.kind.isLeaf = true) :
      Begins rank (token :: behind)
  /-- A step or a sign. -/
  | mark {op : Token} {symbol : Mark} {behind : List Token} (kind : op.kind = .mark symbol)
      (first : (symbol.isStep || symbol.isSign) = true) (bound : rank ≤ Rank.sign) :
      Begins rank (op :: behind)
  /-- A cast whose operand stands in parentheses. -/
  | call {type left : Token} {behind : List Token} (kind : type.kind.isType = true)
      (opening : left.kind = .mark .leftParen) (bound : rank ≤ Rank.cast) :
      Begins rank (type :: left :: behind)
  /-- A cast whose type stands in parentheses. -/
  | cast {left type right : Token} {behind : List Token} (opening : left.kind = .mark .leftParen)
      (kind : type.kind.isType = true) (closing : right.kind = .mark .rightParen)
      (bound : rank ≤ Rank.cast) : Begins rank (left :: type :: right :: behind)
  /-- A parenthesis before anything but a type. -/
  | paren {left second : Token} {behind : List Token} (opening : left.kind = .mark .leftParen)
      (other : second.kind.isType = false) : Begins rank (left :: second :: behind)
  /-- A parenthesis before a cast whose operand stands in parentheses. -/
  | parenCall {left type inner : Token} {behind : List Token}
      (opening : left.kind = .mark .leftParen) (kind : type.kind.isType = true)
      (again : inner.kind = .mark .leftParen) : Begins rank (left :: type :: inner :: behind)

namespace Begins

variable {rank : Nat} {tokens : List Token}

/-- What stands behind a writing does not change how it begins. -/
theorem append (begins : Begins rank tokens) (more : List Token) :
    Begins rank (tokens ++ more) := by
  cases begins with
  | leaf kind => exact .leaf kind
  | mark kind first bound => exact .mark kind first bound
  | call kind opening bound => exact .call kind opening bound
  | cast opening kind closing bound => exact .cast opening kind closing bound
  | paren opening other => exact .paren opening other
  | parenCall opening kind again => exact .parenCall opening kind again

/-- What may begin at a rank may begin at every looser one. -/
theorem loosen (begins : Begins rank tokens) {looser : Nat} (below : looser ≤ rank) :
    Begins looser tokens := by
  cases begins with
  | leaf kind => exact .leaf kind
  | mark kind first bound => exact .mark kind first (by omega)
  | call kind opening bound => exact .call kind opening (by omega)
  | cast opening kind closing bound => exact .cast opening kind closing (by omega)
  | paren opening other => exact .paren opening other
  | parenCall opening kind again => exact .parenCall opening kind again

/-- A parenthesis may stand before every writing. -/
theorem enclose (begins : Begins rank tokens) {left : Token}
    (opening : left.kind = .mark .leftParen) (outer : Nat) : Begins outer (left :: tokens) := by
  cases begins with
  | leaf kind => exact .paren opening (Kind.isType_of_isLeaf kind)
  | mark kind first bound => exact .paren opening (by rw [kind]; rfl)
  | call kind again bound => exact .parenCall opening kind again
  | cast again kind closing bound => exact .paren opening (by rw [again]; rfl)
  | paren again other => exact .paren opening (by rw [again]; rfl)
  | parenCall again kind inner => exact .paren opening (by rw [again]; rfl)

end Begins

/-- Every writing begins as its rank allows. -/
theorem Writes.begins {rank : Nat} {tokens : List Token} {expr : Expr} {cost : Nat}
    (writes : Writes rank tokens expr cost) : Begins rank tokens := by
  induction writes with
  | name kind => exact .leaf (by rw [kind]; rfl)
  | number kind =>
    rcases kind with kind | kind | kind
    all_goals exact .leaf (by rw [kind]; rfl)
  | string kind => exact .leaf (by rw [kind]; rfl)
  | truth kind =>
    rcases kind with kind | kind
    all_goals exact .leaf (by rw [kind]; rfl)
  | paren opening inner closing ih => exact (ih.append _).enclose opening _
  | postStep inner kind step ih => exact (ih.append _).loosen (by decide)
  | preStep kind step inner ih => exact .mark kind (by rw [step]; rfl) (by decide)
  | unary kind sign inner ih => exact .mark kind (by rw [sign, Bool.or_true]) (by decide)
  | operand inner ih => exact ih.loosen (by decide)
  | cast opening kind closing inner ih => exact .cast opening kind closing (by decide)
  | call kind opening inner closing ih => exact .call kind opening (by decide)
  | binary first kind tight second ihFirst ihSecond => exact ihFirst.append _
  | conditional test asks first parts second ihTest ihFirst ihSecond =>
    exact (ihTest.append _).loosen (by decide)
  | tighter other inner ih => exact ih.loosen (by omega)

namespace Grammar

open Cpplet.Parser

variable {rank : Nat} {tokens : List Token}

/-- Above the rank of casts nothing begins with a type in parentheses. -/
theorem startsWith_castAhead (begins : Begins rank tokens) (above : Rank.cast < rank)
    (follow : Feed) : (tokens ++ follow).startsWith castAhead = false := by
  cases begins with
  | @leaf token behind kind =>
    have other : isKind (.mark .leftParen) token = false := by
      simp only [isKind, decide_eq_false_iff_not]
      intro same
      rw [same] at kind
      cases kind
    simp [castAhead, Feed.startsWith, other]
  | @mark op symbol behind kind first bound =>
    have other : isKind (.mark .leftParen) op = false := by
      simp only [isKind, kind, decide_eq_false_iff_not]
      intro same
      cases same
      cases first
    simp [castAhead, Feed.startsWith, other]
  | call kind opening bound => omega
  | cast opening kind closing bound => omega
  | @paren left second behind opening other =>
    simp [castAhead, Feed.startsWith, isTypeWord, other]
  | @parenCall left type inner behind opening kind again =>
    simp [castAhead, Feed.startsWith, isKind, again]

/-- Above the rank of casts nothing begins with a type. -/
theorem startsWith_callAhead (begins : Begins rank tokens) (above : Rank.cast < rank)
    (follow : Feed) : (tokens ++ follow).startsWith callAhead = false := by
  cases begins with
  | leaf kind => simp [callAhead, Feed.startsWith, isTypeWord, Kind.isType_of_isLeaf kind]
  | mark kind first bound => simp [callAhead, Feed.startsWith, isTypeWord, kind, Kind.isType]
  | call kind opening bound => omega
  | cast opening kind closing bound => omega
  | paren opening other => simp [callAhead, Feed.startsWith, isTypeWord, opening, Kind.isType]
  | parenCall opening kind again =>
    simp [callAhead, Feed.startsWith, isTypeWord, opening, Kind.isType]

/-- Above the rank of signs nothing begins with a step or a sign. -/
theorem isOneOf_of_begins (begins : Begins rank tokens) (above : Rank.sign < rank)
    (follow : Feed) :
    isOneOf stepMarks (tokens ++ follow).kind = false ∧
      isOneOf signMarks (tokens ++ follow).kind = false := by
  have neither : ∀ kind : Kind, (kind.isLeaf = true ∨ kind = .mark .leftParen) →
      isOneOf stepMarks kind = false ∧ isOneOf signMarks kind = false := by
    intro kind plain
    rcases plain with leaf | rfl
    · cases kind <;> simp_all [isOneOf, Kind.isLeaf]
    · decide
  cases begins with
  | leaf kind => exact neither _ (.inl kind)
  | mark kind first bound => omega
  | call kind opening bound =>
    simp only [Rank.sign, Rank.cast] at *
    omega
  | cast opening kind closing bound =>
    simp only [Rank.sign, Rank.cast] at *
    omega
  | paren opening other => exact neither _ (.inr opening)
  | parenCall opening kind again => exact neither _ (.inr opening)

/-- Whether the nesting of expressions was given up. -/
def GivesUp (outcome : Outcome Expr) : Prop :=
  ∃ stop : Feed, outcome =
    .rejected (.grammatical ⟨.tooDeep .expression, stop.current.location⟩) stop

/-- Giving up ends everything. -/
theorem GivesUp.andThen {outcome : Outcome Expr} (given : GivesUp outcome)
    (next : Expr → Parser Expr) : GivesUp (outcome.andThen next) := by
  obtain ⟨stop, rfl⟩ := given
  exact ⟨stop, rfl⟩

/-- The parser of a rank. -/
def reader (budget rank : Nat) : Parser Expr :=
  if rank = Rank.choice then conditional (expr budget) (operand budget)
  else if rank ≤ Rank.cast then ladder (operand budget) (binaryLevels.drop (rank - 1))
  else if rank = Rank.sign then signed (expr budget) (operand budget)
  else if rank = Rank.step then stepped (expr budget)
  else primary (expr budget)

/-- The parser of a binary rank, or of casts, follows the levels that are left. -/
theorem reader_succ (budget : Nat) {index : Nat} (bound : index ≤ 10) :
    reader budget (index + 1) = ladder (operand budget) (binaryLevels.drop index) := by
  unfold reader
  rw [if_neg (Nat.succ_ne_zero index), if_pos (by simp only [Rank.cast]; omega)]
  rfl

/-- What the parser of a binary rank does behind an operand: it goes on as long as there are
operators of that rank. -/
def joinsOn (budget index : Nat) (first : Expr) : Parser Expr := do
  let others ← many (fun feed => isOneOf (binaryLevels.getD index []) feed.kind)
    (operation (reader budget (index + 2)))
  return joinLeft first others

/-- The parser of a binary rank reads an operand and goes on behind it. -/
theorem reader_binary (budget : Nat) {index : Nat} (bound : index < 10) (feed : Feed) :
    reader budget (index + 1) feed =
      (reader budget (index + 2) feed).andThen (joinsOn budget index) := by
  rw [reader_succ budget (by omega), drop_binaryLevels bound, ladder, level, bind_apply]
  unfold joinsOn
  rw [reader_succ budget (by omega), ParserLike.many_self]

/-- Without an operator of the rank nothing is joined. -/
theorem joinsOn_stop (budget index : Nat) (first : Expr) {feed : Feed}
    (stops : isOneOf (binaryLevels.getD index []) feed.kind = false) :
    joinsOn budget index first feed = .accepted first feed := by
  unfold joinsOn
  rw [bind_apply, many_stop stops]
  rfl

/-- An operator of the rank is joined with the operand behind it. -/
theorem joinsOn_step (budget : Nat) {index : Nat} (bound : index < 10) (first : Expr) {op : Token}
    {symbol : Mark} (kind : op.kind = .mark symbol) (tight : symbol.tightness = some (index + 1))
    (feed : Feed) :
    joinsOn budget index first (.more op feed) =
      (reader budget (index + 2) feed).andThen fun right =>
        joinsOn budget index (.binary first op right) := by
  have goes : isOneOf (binaryLevels.getD index []) (Feed.more op feed).kind = true :=
    isOneOf_iff.mpr ⟨symbol, kind, (mem_binaryLevels index symbol).mpr tight⟩
  have shrinks : Shrinks (fun feed => isOneOf (binaryLevels.getD index []) feed.kind)
      (operation (reader budget (index + 2))) := by
    rw [reader_succ budget (by omega)]
    exact shrinks_operation (reads_ladder (reads_operand budget) (index + 1) (by omega))
  have one : operation (reader budget (index + 2)) (.more op feed) =
      (reader budget (index + 2) feed).andThen fun right => Pure.pure (op, right) := by
    rw [operation, ParserLike.liftM_self, bind_apply, advance_more, Outcome.accepted_andThen,
      bind_apply]
  unfold joinsOn
  rw [bind_apply, many_eq shrinks, if_pos goes, one]
  cases reader budget (index + 2) feed with
  | rejected error stop => rfl
  | accepted right rest =>
    simp only [Outcome.accepted_andThen, pure_apply, bind_apply]
    cases many (fun feed => isOneOf (binaryLevels.getD index []) feed.kind)
      (operation (reader budget (index + 2))) rest <;> rfl

/-- Whether an outcome is the one that is expected where the budget covers a cost, and gives up
where it does not. -/
def Within (covered : Prop) (outcome expected : Outcome Expr) : Prop :=
  (covered → outcome = expected) ∧ (¬ covered → GivesUp outcome)

/-- An outcome that is as expected needs no budget. -/
theorem Within.of_eq {outcome expected : Outcome Expr} {covered : Prop} (holds : covered)
    (same : outcome = expected) : Within covered outcome expected :=
  ⟨fun _ => same, fun not => absurd holds not⟩

/-- The budget may be stated in another way. -/
theorem Within.congr {covered other : Prop} {outcome expected : Outcome Expr}
    (within : Within covered outcome expected) (same : other ↔ covered) :
    Within other outcome expected :=
  ⟨fun holds => within.1 (same.mp holds), fun not => within.2 fun holds => not (same.mpr holds)⟩

/-- One parser behind another needs the budget of both. -/
theorem Within.andThen {first second : Prop} {outcome expected : Outcome Expr} {value : Expr}
    {rest : Feed} {next : Expr → Parser Expr} (before : Within first outcome (.accepted value rest))
    (behind : Within second (next value rest) expected) :
    Within (first ∧ second) (outcome.andThen next) expected := by
  constructor
  · rintro ⟨holdsFirst, holdsSecond⟩
    rw [before.1 holdsFirst, Outcome.accepted_andThen, behind.1 holdsSecond]
  · intro not
    by_cases holdsFirst : first
    · rw [before.1 holdsFirst, Outcome.accepted_andThen]
      exact behind.2 fun holdsSecond => not ⟨holdsFirst, holdsSecond⟩
    · exact (before.2 holdsFirst).andThen next

/-- An outcome that another stands for needs the budget of both. -/
theorem Within.trans {first second : Prop} {outcome middle expected : Outcome Expr}
    (before : Within first outcome middle) (behind : Within second middle expected) :
    Within (first ∧ second) outcome expected := by
  constructor
  · rintro ⟨holdsFirst, holdsSecond⟩
    rw [before.1 holdsFirst, behind.1 holdsSecond]
  · intro not
    by_cases holdsFirst : first
    · rw [before.1 holdsFirst]
      exact behind.2 fun holdsSecond => not ⟨holdsFirst, holdsSecond⟩
    · exact before.2 holdsFirst

/-- Building something of what was read needs no more budget. -/
theorem Within.map {covered : Prop} {outcome : Outcome Expr} {value : Expr} {rest : Feed}
    (within : Within covered outcome (.accepted value rest)) (build : Expr → Expr) :
    Within covered (outcome.andThen fun inner => Pure.pure (build inner))
      (.accepted (build value) rest) :=
  (within.andThen (.of_eq trivial rfl)).congr (by simp)

/-- A whole expression opens one level more than what is read inside it. -/
theorem within_expr {tokens : List Token} {tree : Expr} {cost : Nat} {follow : Feed}
    (inner : ∀ budget, Within (cost ≤ budget) (reader budget Rank.choice (tokens ++ follow))
      (.accepted tree follow)) (budget : Nat) :
    Within (cost + 1 ≤ budget) (expr budget (tokens ++ follow)) (.accepted tree follow) := by
  cases budget with
  | zero =>
    rw [expr]
    exact ⟨fun covered => by omega, fun _ => ⟨tokens ++ follow, rfl⟩⟩
  | succ budget =>
    rw [expr]
    exact (inner budget).congr (by omega)

/-- What is read behind a choice of the first tokens. -/
theorem reader_cast (budget : Nat) : reader budget Rank.cast = operand budget :=
  reader_succ budget (Nat.le_refl 10)

/-- What a writing of a rank comes to: the parser of the rank reads it back, and the parser of a
binary rank has read it back when it goes on behind it. -/
def Returns (rank : Nat) (tokens : List Token) (tree : Expr) (cost : Nat) : Prop :=
  ∀ (budget : Nat) (follow : Feed),
    (∀ index, rank = index + 1 → index < 10 → follow.kind.continues (rank + 1) = false →
      Within (cost ≤ budget) (reader budget rank (tokens ++ follow))
        (joinsOn budget index tree follow)) ∧
    (follow.kind.continues rank = false →
      Within (cost ≤ budget) (reader budget rank (tokens ++ follow)) (.accepted tree follow))

section Returns

variable {rank : Nat} {tokens : List Token} {tree : Expr} {cost : Nat}

/-- At a rank that is not binary only reading back is to be shown. -/
theorem returns_of_within (other : rank = Rank.choice ∨ Rank.cast ≤ rank)
    (back : ∀ (budget : Nat) (follow : Feed), follow.kind.continues rank = false →
      Within (cost ≤ budget) (reader budget rank (tokens ++ follow)) (.accepted tree follow)) :
    Returns rank tokens tree cost := by
  intro budget follow
  refine ⟨?_, back budget follow⟩
  intro index binary bound
  simp only [Rank.choice, Rank.cast] at other
  omega

/-- At a binary rank, going on behind a writing is to be shown. -/
theorem returns_of_joinsOn {index : Nat}
    (enters : ∀ (budget : Nat) (follow : Feed), follow.kind.continues (index + 2) = false →
      Within (cost ≤ budget) (reader budget (index + 1) (tokens ++ follow))
        (joinsOn budget index tree follow)) :
    Returns (index + 1) tokens tree cost := by
  intro budget follow
  constructor
  · intro other same _ ends
    obtain rfl : index = other := by omega
    exact enters budget follow ends
  · intro ends
    have stops : isOneOf (binaryLevels.getD index []) follow.kind = false := by
      refine Bool.eq_false_iff.mpr fun goes => ?_
      obtain ⟨symbol, kind, member⟩ := isOneOf_iff.mp goes
      have tight := (mem_binaryLevels index symbol).mp member
      rw [kind] at ends
      simp [Kind.continues, tight] at ends
    have back := enters budget follow (Kind.continues_mono (by omega) ends)
    rwa [joinsOn_stop budget index tree stops] at back

/-- What stands between parentheses is read back. -/
theorem returns_paren {left right : Token} (opening : left.kind = .mark .leftParen)
    (closing : right.kind = .mark .rightParen) (inner : Returns Rank.choice tokens tree cost) :
    Returns Rank.primary (left :: (tokens ++ [right])) tree (cost + 1) := by
  refine returns_of_within (by decide) fun budget follow _ => ?_
  have within := within_expr (fun budget => (inner budget (.more right follow)).2
    (by rw [Feed.kind_more, closing]; rfl)) budget
  have step : primary (expr budget) (left :: (tokens ++ [right]) ++ follow) =
      (expr budget (tokens ++ Feed.more right follow)).andThen fun value => do
        let _ ← mark .rightParen
        return value := by
    simp [primary, opening, mark_more opening]
  show Within _ (primary (expr budget) (left :: (tokens ++ [right]) ++ follow)) _
  rw [step]
  refine (within.andThen (.of_eq trivial ?_)).congr (by simp)
  rw [bind_apply, mark_more closing]
  rfl

/-- A step behind its operand is read back. -/
theorem returns_postStep {op : Token} {symbol : Mark} (kind : op.kind = .mark symbol)
    (step : symbol.isStep = true) (inner : Returns Rank.primary tokens tree cost) :
    Returns Rank.step (tokens ++ [op]) (.postStep tree op) cost := by
  refine returns_of_within (by decide) fun budget follow _ => ?_
  have steps : isOneOf stepMarks op.kind = true := isOneOf_stepMarks.mpr ⟨symbol, kind, step⟩
  have within := (inner budget (.more op follow)).2
    (by rw [Feed.kind_more, kind]; exact Mark.continues_of_isStep step)
  show Within _ (stepped (expr budget) (tokens ++ [op] ++ follow)) _
  rw [stepped, bind_apply, Feed.append_append]
  refine (within.andThen (.of_eq trivial ?_)).congr (by simp)
  simp [steps]

/-- A step before its operand is read back. -/
theorem returns_preStep {op : Token} {symbol : Mark} (kind : op.kind = .mark symbol)
    (step : symbol.isStep = true) (inner : Returns Rank.step tokens tree cost) :
    Returns Rank.sign (op :: tokens) (.preStep op tree) cost := by
  refine returns_of_within (by decide) fun budget follow ends => ?_
  have steps : isOneOf stepMarks op.kind = true := isOneOf_stepMarks.mpr ⟨symbol, kind, step⟩
  have within := (inner budget follow).2 (follow.kind.continues_cast.2 ▸ ends)
  have first : signed (expr budget) (operand budget) (op :: tokens ++ follow) =
      (stepped (expr budget) (tokens ++ follow)).andThen fun value =>
        Pure.pure (.preStep op value) := by
    simp [signed, steps]
  show Within _ (signed (expr budget) (operand budget) (op :: tokens ++ follow)) _
  rw [first]
  exact within.map (.preStep op)

/-- A sign before its operand is read back. -/
theorem returns_unary {op : Token} {symbol : Mark} (kind : op.kind = .mark symbol)
    (sign : symbol.isSign = true) (inner : Returns Rank.cast tokens tree cost) :
    Returns Rank.sign (op :: tokens) (.unary op tree) cost := by
  refine returns_of_within (by decide) fun budget follow ends => ?_
  have signs : isOneOf signMarks op.kind = true := isOneOf_signMarks.mpr ⟨symbol, kind, sign⟩
  have noStep : isOneOf stepMarks op.kind = false := by
    rw [kind]
    revert sign
    cases symbol <;> decide
  have within := (inner budget follow).2 (by
    rw [follow.kind.continues_cast.1, ← follow.kind.continues_cast.2]
    exact ends)
  have first : signed (expr budget) (operand budget) (op :: tokens ++ follow) =
      (operand budget (tokens ++ follow)).andThen fun value => Pure.pure (.unary op value) := by
    simp [signed, signs, noStep]
  rw [reader_cast] at within
  show Within _ (signed (expr budget) (operand budget) (op :: tokens ++ follow)) _
  rw [first]
  exact within.map (.unary op)

/-- What an operand opens a level for is to be shown one level below. -/
theorem returns_cast {tokens : List Token} {tree : Expr} {cost : Nat}
    (back : ∀ (budget : Nat) (follow : Feed), follow.kind.continues Rank.cast = false →
      Within (cost ≤ budget) (castOr (expr budget) (operand budget) (tokens ++ follow))
        (.accepted tree follow)) :
    Returns Rank.cast tokens tree (cost + 1) := by
  refine returns_of_within (by decide) fun budget follow ends => ?_
  rw [reader_cast]
  cases budget with
  | zero =>
    rw [operand]
    exact ⟨fun covered => by omega, fun _ => ⟨tokens ++ follow, rfl⟩⟩
  | succ budget =>
    rw [operand]
    exact (back budget follow ends).congr (by omega)

/-- An operand that is no cast is read back. -/
theorem returns_operand (begins : Begins Rank.sign tokens)
    (inner : Returns Rank.sign tokens tree cost) : Returns Rank.cast tokens tree (cost + 1) := by
  refine returns_cast fun budget follow ends => ?_
  have within := (inner budget follow).2 (by
    rw [follow.kind.continues_cast.2, ← follow.kind.continues_cast.1]
    exact ends)
  have first : castOr (expr budget) (operand budget) (tokens ++ follow) =
      signed (expr budget) (operand budget) (tokens ++ follow) := by
    simp [castOr, startsWith_castAhead begins (by decide), startsWith_callAhead begins (by decide)]
  rw [first]
  exact within

/-- A cast whose type stands in parentheses is read back. -/
theorem returns_castType {left type right : Token} (opening : left.kind = .mark .leftParen)
    (kind : type.kind.isType = true) (closing : right.kind = .mark .rightParen)
    (inner : Returns Rank.cast tokens tree cost) :
    Returns Rank.cast (left :: type :: right :: tokens) (.cast type tree) (cost + 1) := by
  refine returns_cast fun budget follow ends => ?_
  have within := (inner budget follow).2 ends
  have ahead : (left :: type :: right :: tokens ++ follow).startsWith castAhead = true := by
    simp [castAhead, Feed.startsWith, isKind, isTypeWord, opening, kind, closing]
  have first : castOr (expr budget) (operand budget) (left :: type :: right :: tokens ++ follow) =
      (operand budget (tokens ++ follow)).andThen fun value => Pure.pure (.cast type value) := by
    rw [castOr, ParserLike.liftM_self, bind_apply, ahead_apply, ahead]
    simp [mark_more opening, mark_more closing, typeWord, satisfy_more kind]
  rw [reader_cast] at within
  rw [first]
  exact within.map (.cast type)

/-- A cast whose operand stands in parentheses is read back. -/
theorem returns_call {type left right : Token} (kind : type.kind.isType = true)
    (opening : left.kind = .mark .leftParen) (closing : right.kind = .mark .rightParen)
    (inner : Returns Rank.choice tokens tree cost) :
    Returns Rank.cast (type :: left :: (tokens ++ [right])) (.cast type tree) (cost + 2) := by
  refine returns_cast fun budget follow _ => ?_
  have within := within_expr (fun budget => (inner budget (.more right follow)).2
    (by rw [Feed.kind_more, closing]; rfl)) budget
  have noCast : (type :: left :: (tokens ++ [right]) ++ follow).startsWith castAhead = false := by
    have other : isKind (.mark .leftParen) type = false := by
      simp only [isKind, decide_eq_false_iff_not]
      intro same
      rw [same] at kind
      cases kind
    simp [castAhead, Feed.startsWith, other]
  have call : (type :: left :: (tokens ++ [right]) ++ follow).startsWith callAhead = true := by
    simp [callAhead, Feed.startsWith, isKind, isTypeWord, opening, kind]
  have first :
      castOr (expr budget) (operand budget) (type :: left :: (tokens ++ [right]) ++ follow) =
        (expr budget (tokens ++ Feed.more right follow)).andThen fun value => do
          let _ ← mark .rightParen
          return .cast type value := by
    rw [castOr, ParserLike.liftM_self, bind_apply, ahead_apply, noCast, Outcome.accepted_andThen,
      if_neg (by decide), ParserLike.liftM_self, bind_apply, ahead_apply, call]
    simp [mark_more opening, typeWord, satisfy_more kind]
  rw [first]
  refine (within.andThen (.of_eq trivial ?_)).congr (by simp)
  rw [bind_apply, mark_more closing]
  rfl

/-- A binary operator between its operands is read back. -/
theorem returns_binary {op : Token} {symbol : Mark} {index : Nat} {front behind : List Token}
    {left right : Expr} {costLeft costRight : Nat} (kind : op.kind = .mark symbol)
    (tight : symbol.tightness = some (index + 1)) (first : Returns (index + 1) front left costLeft)
    (second : Returns (index + 2) behind right costRight) :
    Returns (index + 1) (front ++ op :: behind) (.binary left op right)
      (max costLeft costRight) := by
  have bound : index < 10 := by
    have bounds := Mark.tightness_bounds tight
    omega
  refine returns_of_joinsOn fun budget follow ends => ?_
  have enters := (first budget (.more op (behind ++ follow))).1 index rfl bound
    (by rw [Feed.kind_more, kind]; exact Mark.continues_of_tightness tight)
  have within := (second budget follow).2 ends
  rw [Feed.append_append, Feed.cons_append]
  rw [joinsOn_step budget bound left kind tight] at enters
  have costs : max costLeft costRight ≤ budget ↔
      costLeft ≤ budget ∧ costRight ≤ budget ∧ True := by
    rw [and_true, Nat.max_le]
  exact (enters.trans (within.andThen (.of_eq trivial rfl))).congr costs

/-- A choice is read back. -/
theorem returns_conditional {question colon : Token} {front middle behind : List Token}
    {condition whenTrue whenFalse : Expr} {costCondition costTrue costFalse : Nat}
    (asks : question.kind = .mark .question) (parts : colon.kind = .mark .colon)
    (test : Returns 1 front condition costCondition)
    (first : Returns Rank.choice middle whenTrue costTrue)
    (second : Returns Rank.choice behind whenFalse costFalse) :
    Returns Rank.choice (front ++ question :: (middle ++ colon :: behind))
      (.conditional condition whenTrue whenFalse)
      (max costCondition (max (costTrue + 1) (costFalse + 1))) := by
  refine returns_of_within (by decide) fun budget follow ends => ?_
  have withinTest := (test budget (.more question (middle ++ Feed.more colon (behind ++ follow)))).2
    (by rw [Feed.kind_more, asks]; rfl)
  have withinFirst := within_expr (fun budget => (first budget (.more colon (behind ++ follow))).2
    (by rw [Feed.kind_more, parts]; rfl)) budget
  have withinSecond := within_expr (fun budget => (second budget follow).2 ends) budget
  show Within _ (conditional (expr budget) (operand budget) _) _
  rw [reader_succ budget (by omega), List.drop_zero] at withinTest
  simp only [conditional, ParserLike.liftM_self, bind_apply, Feed.append_append, Feed.cons_append]
  have budgets : max costCondition (max (costTrue + 1) (costFalse + 1)) ≤ budget ↔
      costCondition ≤ budget ∧ costTrue + 1 ≤ budget ∧ costFalse + 1 ≤ budget := by
    simp only [Nat.max_le]
  refine Within.congr (withinTest.andThen ?_) budgets
  simp only [bind_apply, kind_apply, Outcome.accepted_andThen, Feed.kind_more, asks, ↓reduceIte,
    mark_more asks]
  refine withinFirst.andThen ?_
  simp only [bind_apply, mark_more parts, Outcome.accepted_andThen]
  exact withinSecond.map (.conditional condition whenTrue)

/-- What binds tighter is read back where less is asked for. -/
theorem returns_tighter (other : rank ≠ Rank.cast) (bound : rank < Rank.primary)
    (begins : Begins (rank + 1) tokens) (inner : Returns (rank + 1) tokens tree cost) :
    Returns rank tokens tree cost := by
  obtain rfl | rfl | rfl | ⟨index, binary, rfl⟩ :
      rank = 0 ∨ rank = 12 ∨ rank = 13 ∨ ∃ index < 10, rank = index + 1 := by
    simp only [Rank.cast, Rank.primary] at *
    by_cases zero : rank = 0
    · exact .inl zero
    · by_cases binary : rank ≤ 10
      · exact .inr (.inr (.inr ⟨rank - 1, by omega, by omega⟩))
      · omega
  · -- No question mark follows, so there is no choice.
    refine returns_of_within (by decide) fun budget follow ends => ?_
    have within := (inner budget follow).2 (Kind.continues_mono (by decide) ends)
    have noChoice : follow.kind ≠ .mark .question := by
      intro same
      rw [same] at ends
      cases ends
    show Within _ (conditional (expr budget) (operand budget) _) _
    rw [reader_succ budget (by omega), List.drop_zero] at within
    rw [conditional, bind_apply]
    refine (within.andThen (.of_eq trivial ?_)).congr (by simp)
    simp [noChoice]
  · -- Neither a step nor a sign comes first.
    refine returns_of_within (by decide) fun budget follow ends => ?_
    have within := (inner budget follow).2 (follow.kind.continues_cast.2 ▸ ends)
    obtain ⟨noStep, noSign⟩ := isOneOf_of_begins begins (by decide) follow
    show Within _ (signed (expr budget) (operand budget) _) _
    have first : signed (expr budget) (operand budget) (tokens ++ follow) =
        stepped (expr budget) (tokens ++ follow) := by
      simp [signed, noStep, noSign]
    rw [first]
    exact within
  · -- No step follows.
    refine returns_of_within (by decide) fun budget follow ends => ?_
    have within := (inner budget follow).2 (Kind.continues_mono (by decide) ends)
    have noStep : isOneOf stepMarks follow.kind = false := by
      refine Bool.eq_false_iff.mpr fun steps => ?_
      obtain ⟨symbol, kind, step⟩ := isOneOf_stepMarks.mp steps
      rw [kind] at ends
      simp [Kind.continues, step] at ends
    show Within _ (stepped (expr budget) _) _
    rw [stepped, bind_apply]
    refine (within.andThen (.of_eq trivial ?_)).congr (by simp)
    simp [noStep]
  · -- The first operand is read and no other has been joined to it yet.
    refine returns_of_joinsOn fun budget follow ends => ?_
    have within := (inner budget follow).2 ends
    rw [reader_binary budget binary]
    exact (within.andThen (.of_eq trivial rfl)).congr (by simp)

end Returns

/-- No rank is tighter than that of what needs no parentheses. -/
theorem rank_le_of_writes {rank : Nat} {tokens : List Token} {tree : Expr} {cost : Nat}
    (writes : Writes rank tokens tree cost) : rank ≤ Rank.primary := by
  induction writes with
  | binary first kind tight second ihFirst ihSecond => exact ihFirst
  | tighter other inner ih => omega
  | _ => decide

/-- Every writing is read back. -/
theorem returns_of_writes {rank : Nat} {tokens : List Token} {tree : Expr} {cost : Nat}
    (writes : Writes rank tokens tree cost) : Returns rank tokens tree cost := by
  induction writes with
  | name kind =>
    refine returns_of_within (by decide) fun budget follow _ => .of_eq (Nat.zero_le _) ?_
    show primary (expr budget) _ = _
    simp [primary, name, kind, eat_more kind]
  | number kind =>
    refine returns_of_within (by decide) fun budget follow _ => .of_eq (Nat.zero_le _) ?_
    show primary (expr budget) _ = _
    rcases kind with kind | kind | kind
    all_goals simp [primary, constant, kind]
  | string kind =>
    refine returns_of_within (by decide) fun budget follow _ => .of_eq (Nat.zero_le _) ?_
    show primary (expr budget) _ = _
    simp [primary, constant, kind]
  | truth kind =>
    refine returns_of_within (by decide) fun budget follow _ => .of_eq (Nat.zero_le _) ?_
    show primary (expr budget) _ = _
    rcases kind with kind | kind
    all_goals simp [primary, constant, kind]
  | paren opening inner closing ih => exact returns_paren opening closing ih
  | postStep inner kind step ih => exact returns_postStep kind step ih
  | preStep kind step inner ih => exact returns_preStep kind step ih
  | unary kind sign inner ih => exact returns_unary kind sign ih
  | operand inner ih => exact returns_operand inner.begins ih
  | cast opening kind closing inner ih => exact returns_castType opening kind closing ih
  | call kind opening inner closing ih => exact returns_call kind opening closing ih
  | @binary rank op symbol _ _ _ _ _ _ first kind tight second ihFirst ihSecond =>
    obtain ⟨index, rfl⟩ : ∃ index, rank = index + 1 :=
      Nat.exists_eq_add_one.mpr (Mark.tightness_bounds tight).1
    exact returns_binary kind tight ihFirst ihSecond
  | conditional test asks first parts second ihTest ihFirst ihSecond =>
    exact returns_conditional asks parts ihTest ihFirst ihSecond
  | tighter other inner ih => exact returns_tighter other (rank_le_of_writes inner) inner.begins ih

/-- An expression that is written within the budget is read back, with what follows it left. -/
theorem expr_of_writes {tokens : List Token} {tree : Expr} {cost : Nat}
    (writes : Writes Rank.choice tokens tree cost) {follow : Feed}
    (ends : follow.kind.continues Rank.choice = false) (budget : Nat) :
    Within (cost + 1 ≤ budget) (expr budget (tokens ++ follow)) (.accepted tree follow) :=
  within_expr (fun budget => (returns_of_writes writes budget follow).2 ends) budget

/-- Reading an expression undoes writing it. At every depth, the tokens that write an expression
are read as that expression and what follows them is left, if the depth and the levels that the
writing opens stay within the nesting limit; if they do not, the nesting is given up. -/
theorem expr_undoes_writing {tokens : List Token} {tree : Expr} {cost : Nat}
    (writes : Writes Rank.choice tokens tree cost) {follow : Feed}
    (ends : follow.kind.continues Rank.choice = false) (depth : Nat) :
    (depth + (cost + 1) ≤ nestingLimit →
      expr (nestingLimit - depth) (tokens ++ follow) = .accepted tree follow) ∧
    (nestingLimit < depth + (cost + 1) →
      ∃ stop : Feed, expr (nestingLimit - depth) (tokens ++ follow) =
        .rejected (.grammatical ⟨.tooDeep .expression, stop.current.location⟩) stop) := by
  obtain ⟨accepts, givesUp⟩ := expr_of_writes writes ends (nestingLimit - depth)
  constructor
  · intro covered
    exact accepts (by omega)
  · intro exceeded
    exact givesUp (by omega)

/-- A choice with a cast in either form, `(int) x++ ? x * -x : float(x)`, opens five levels: it is
read back where five are left and given up where four are. -/
theorem expr_undoes_writing_choice :
    let name := sample .name
    let mark (symbol : Mark) := sample (.mark symbol)
    let int := sample (.keyword .intWord)
    let float := sample (.keyword .floatWord)
    let follow := Feed.more (mark .semicolon) (.eof .start)
    let feed := [mark .leftParen, int, mark .rightParen, name, mark .increment, mark .question,
      name, mark .star, mark .minus, name, mark .colon, float, mark .leftParen, name,
      mark .rightParen] ++ follow
    expr (nestingLimit - 195) feed =
      .accepted
        (.conditional (.cast int (.postStep (.name name) (mark .increment)))
          (.binary (.name name) (mark .star) (.unary (mark .minus) (.name name)))
          (.cast float (.name name))) follow ∧
    ∃ stop : Feed, expr (nestingLimit - 196) feed =
      .rejected (.grammatical ⟨.tooDeep .expression, stop.current.location⟩) stop := by
  intro name mark int float follow feed
  have leaf : Writes Rank.primary [name] (.name name) 0 := .name rfl
  have plain : Writes Rank.cast [name] (.name name) 1 :=
    .operand (.tighter (by decide) (.tighter (by decide) leaf))
  have condition : Writes Rank.cast
      [mark .leftParen, int, mark .rightParen, name, mark .increment]
      (.cast int (.postStep (.name name) (mark .increment))) 2 :=
    .cast rfl rfl rfl (.operand (.tighter (by decide) (.postStep leaf rfl rfl)))
  have product : Writes 10 [name, mark .star, mark .minus, name]
      (.binary (.name name) (mark .star) (.unary (mark .minus) (.name name))) 2 :=
    .binary (plain.loosen (by decide) 10 (by decide)) rfl rfl (.operand (.unary rfl rfl plain))
  have call : Writes Rank.cast [float, mark .leftParen, name, mark .rightParen]
      (.cast float (.name name)) 3 :=
    .call rfl rfl (plain.loosen (by decide) 0 (by decide)) rfl
  have asks : (mark .question).kind = .mark .question := rfl
  have parts : (mark .colon).kind = .mark .colon := rfl
  have writes := Writes.conditional (condition.loosen (by decide) 1 (by decide)) asks
    (product.loosen (by decide) 0 (by decide)) parts (call.loosen (by decide) 0 (by decide))
  exact ⟨(@expr_undoes_writing _ _ _ writes follow rfl 195).1 (by decide),
    (@expr_undoes_writing _ _ _ writes follow rfl 196).2 (by decide)⟩

end Grammar

end Cpplet

import Cpplet.Proofs.Programs
import Cpplet.Proofs.Undoing

/-!
# What the grammar writes is read

Every sequence of the grammar is read as its tree if the budget is large enough, whatever follows
it that cannot go on with it. The induction is on the derivation; each case says how the first
tokens choose the production, which is where the rules of the grammar that keep sequences from
being read in two ways are used.
-/

namespace Cpplet

/-- Whether something holds of every budget that is large enough. -/
def Eventually (holds : Nat → Prop) : Prop :=
  ∃ enough, ∀ budget, enough ≤ budget → holds budget

namespace Eventually

variable {first second : Nat → Prop}

/-- What always holds holds eventually. -/
theorem always (holds : ∀ budget, first budget) : Eventually first :=
  ⟨0, fun budget _ => holds budget⟩

/-- What two things imply holds eventually if both do. -/
theorem and (left : Eventually first) (right : Eventually second) :
    Eventually fun budget => first budget ∧ second budget := by
  obtain ⟨enoughLeft, holdsLeft⟩ := left
  obtain ⟨enoughRight, holdsRight⟩ := right
  refine ⟨max enoughLeft enoughRight, fun budget enough => ⟨?_, ?_⟩⟩
  · exact holdsLeft budget (by omega)
  · exact holdsRight budget (by omega)

/-- What follows from something that holds eventually holds eventually. -/
theorem mono (holds : Eventually first) (implies : ∀ budget, first budget → second budget) :
    Eventually second := by
  obtain ⟨enough, holds⟩ := holds
  exact ⟨enough, fun budget above => implies budget (holds budget above)⟩

/-- What holds eventually one level above holds eventually. -/
theorem above (holds : Eventually fun budget => first (budget + 1)) : Eventually first := by
  obtain ⟨enough, holds⟩ := holds
  refine ⟨enough + 1, fun budget above => ?_⟩
  obtain ⟨below, rfl⟩ : ∃ below, budget = below + 1 := ⟨budget - 1, by omega⟩
  exact holds below (by omega)

end Eventually

/-- The kinds that begin an expression. -/
def Kind.startsExpr : Kind → Bool
  | .mark symbol => symbol.isStep || symbol.isSign || symbol = .leftParen
  | kind => kind.isLeaf || kind.isType

/-- An expression begins with a token that may begin one. -/
theorem Begins.startsExpr {rank : Nat} {tokens : List Token} (begins : Begins rank tokens) :
    ∃ token behind, tokens = token :: behind ∧ token.kind.startsExpr = true := by
  have leaves : ∀ kind : Kind, kind.isLeaf = true → kind.startsExpr = true := by
    intro kind leaf
    cases kind <;> simp_all [Kind.startsExpr, Kind.isLeaf]
  have types : ∀ kind : Kind, kind.isType = true → kind.startsExpr = true := by
    intro kind type
    cases kind <;> simp_all [Kind.startsExpr, Kind.isType]
  cases begins with
  | leaf kind => exact ⟨_, _, rfl, leaves _ kind⟩
  | mark kind first bound => exact ⟨_, _, rfl, by rw [kind, Kind.startsExpr, first]; rfl⟩
  | call kind opening bound => exact ⟨_, _, rfl, types _ kind⟩
  | cast opening kind closing bound => exact ⟨_, _, rfl, by rw [opening]; rfl⟩
  | paren opening other => exact ⟨_, _, rfl, by rw [opening]; rfl⟩
  | parenCall opening kind again => exact ⟨_, _, rfl, by rw [opening]; rfl⟩

/-- The kinds that begin a statement and nothing else. -/
def Kind.heads : Kind → Bool
  | .mark .leftBrace => true
  | .keyword .ifWord | .keyword .whileWord | .keyword .doWord | .keyword .forWord
  | .keyword .returnWord | .keyword .breakWord | .keyword .continueWord | .keyword .switchWord
  | .keyword .coutWord => true
  | _ => false

/-- The kinds that begin a statement. -/
def Kind.startsStatement (kind : Kind) : Bool :=
  kind.startsExpr || kind = .mark .semicolon || kind.heads

/-- No assignment operator stands in an expression. -/
theorem Writes.unassigning {rank : Nat} {tokens : List Token} {expr : Expr} {cost : Nat}
    (writes : Writes rank tokens expr cost) :
    tokens.all (fun token => !token.kind.isAssignment) = true := by
  have types : ∀ kind : Kind, kind.isType = true → kind.isAssignment = false := by
    intro kind type
    cases kind <;> simp_all [Kind.isAssignment, Kind.isType]
  have marks : ∀ symbol : Mark,
      (symbol.isStep = true ∨ symbol.isSign = true ∨ symbol.tightness.isSome = true) →
        symbol.isAssignment = false := by
    intro symbol
    cases symbol <;> decide
  have of : ∀ {token : Token} {kind : Kind}, token.kind = kind → kind.isAssignment = false →
      token.kind.isAssignment = false := by
    intro token kind same plain
    rw [same, plain]
  induction writes with
  | name kind => simp [of kind rfl]
  | number kind =>
    rcases kind with kind | kind | kind
    all_goals simp [of kind rfl]
  | string kind => simp [of kind rfl]
  | truth kind =>
    rcases kind with kind | kind
    all_goals simp [of kind rfl]
  | paren opening inner closing ih => simp [ih, of opening rfl, of closing rfl]
  | postStep inner kind step ih => simp [ih, of kind (marks _ (.inl step))]
  | preStep kind step inner ih => simp [ih, of kind (marks _ (.inl step))]
  | unary kind sign inner ih => simp [ih, of kind (marks _ (.inr (.inl sign)))]
  | operand inner ih => exact ih
  | cast opening kind closing inner ih =>
    simp [ih, of opening rfl, of closing rfl, types _ kind]
  | call kind opening inner closing ih =>
    simp [ih, of opening rfl, of closing rfl, types _ kind]
  | binary first kind tight second ihFirst ihSecond =>
    simp [ihFirst, ihSecond, of kind (marks _ (.inr (.inr (by rw [tight]; rfl))))]
  | conditional test asks first parts second ihTest ihFirst ihSecond =>
    simp [ihTest, ihFirst, ihSecond, of asks rfl, of parts rfl]
  | tighter other inner ih => exact ih

namespace Grammar

open Cpplet.Parser

/-- An expression is read if the budget is large enough. -/
theorem eventually_expr {tokens : List Token} {tree : Expr}
    (inner : written Rank.choice tokens tree) :
    Eventually fun budget => ∀ follow : Feed, follow.kind.continues Rank.choice = false →
      expr budget (tokens ++ follow) = .accepted tree follow := by
  obtain ⟨cost, writes⟩ := inner
  exact ⟨cost + 1, fun budget enough follow ends => (expr_of_writes writes ends budget).1 enough⟩

/-- A sum is read if the budget is large enough. -/
theorem eventually_additive {tokens : List Token} {tree : Expr}
    (inner : written Rank.additive tokens tree) :
    Eventually fun budget => ∀ follow : Feed, follow.kind.continues Rank.additive = false →
      additive budget (tokens ++ follow) = .accepted tree follow := by
  obtain ⟨cost, writes⟩ := inner
  refine ⟨cost, fun budget enough follow ends => ?_⟩
  have back := ((returns_of_writes writes budget follow).2 ends).1 enough
  rwa [reader_succ budget (by decide)] at back

/-- One more round of a repetition. -/
theorem many_cons {α : Type} {go : Feed → Bool} {item : Parser α} (shrinks : Shrinks go item)
    {feed rest last : Feed} {value : α} {values : List α} (goes : go feed = true)
    (first : item feed = .accepted value rest)
    (others : many go item rest = .accepted values last) :
    many go item feed = .accepted (value :: values) last := by
  rw [many_eq shrinks, if_pos goes, first, Outcome.accepted_andThen, bind_apply, others]
  rfl

/-- A repetition reads sequences one behind the other, if each is read before whatever may stand
behind it and may itself stand behind one. -/
theorem eventually_many {α : Type} {go : Feed → Bool} {item : Nat → Parser α}
    {language : Language α} (ok : Feed → Prop) (shrinks : ∀ budget, Shrinks go (item budget))
    (each : ∀ front value, language front value →
      (∀ behind : Feed, go (front ++ behind) = true ∧ ok (front ++ behind)) ∧
        Eventually fun budget => ∀ behind : Feed, ok behind →
          item budget (front ++ behind) = .accepted value behind)
    {tokens : List Token} {values : List α} (star : Language.Star language tokens values) :
    Eventually fun budget => ∀ follow : Feed, ok follow → go follow = false →
      many go (item budget) (tokens ++ follow) = .accepted values follow := by
  induction star with
  | nil => exact .always fun budget follow _ stops => many_stop stops
  | @cons front behind value values first others ih =>
    refine ((each _ _ first).2.and ih).mono fun budget ⟨reads, readsOthers⟩ follow fine stops => ?_
    have goes := ((each _ _ first).1 (behind ++ follow)).1
    have fineBehind : ok (behind ++ follow) := by
      cases others with
      | nil => exact fine
      | cons second others =>
        rw [Feed.append_append]
        exact ((each _ _ second).1 _).2
    rw [Feed.append_append]
    exact many_cons (shrinks budget) goes (reads _ fineBehind) (readsOthers follow fine stops)

/-- Whether a feed goes on with one of two marks. -/
def AtEither (first second : Mark) (feed : Feed) : Prop :=
  feed.kind = .mark first ∨ feed.kind = .mark second

/-- Behind things with a mark before each, and before another mark, there is one of both. -/
theorem atEither_of_star {α : Type} {symbol closer : Mark} {language : Language α}
    {tokens : List Token} {values : List α}
    (star : Language.Star (Language.Behind (.mark symbol) language) tokens values) {follow : Feed}
    (ends : follow.kind = .mark closer) : AtEither symbol closer (tokens ++ follow) := by
  cases star with
  | nil => exact .inr ends
  | cons first others =>
    obtain ⟨same, -⟩ := first
    exact .inl same

/-- Things with a mark before each are read up to another mark, if each of them is. -/
theorem eventually_manyBehind {α : Type} {symbol closer : Mark} (other : symbol ≠ closer)
    {item : Nat → Parser α} {language : Language α}
    (reads : ∀ budget, Reads (item budget) language)
    (each : ∀ front value, language front value →
      Eventually fun budget => ∀ behind, AtEither symbol closer behind →
        item budget (front ++ behind) = .accepted value behind)
    {tokens : List Token} {values : List α}
    (star : Language.Star (Language.Behind (.mark symbol) language) tokens values) :
    Eventually fun budget => ∀ follow : Feed, follow.kind = .mark closer →
      (ParserLike.manyAt (.mark symbol) (do let _ ← mark symbol; item budget) : Parser _)
        (tokens ++ follow) = .accepted values follow := by
  have shrinks : ∀ budget, Shrinks (fun feed => decide (feed.kind = .mark symbol))
      (do let _ ← mark symbol; item budget) := fun budget =>
    shrinks_of_fits (fun feed _ => (reads_behind symbol (reads budget)).fits feed) behind_ne_nil
  refine (eventually_many (AtEither symbol closer) shrinks ?_ star).mono ?_
  · rintro _ value ⟨same, member⟩
    refine ⟨fun behind => ⟨by simp [same], .inl same⟩, ?_⟩
    refine (each _ _ member).mono fun budget reads behind ends => ?_
    simp [mark_more same, reads behind ends]
  · intro budget reads follow ends
    exact reads follow (.inr ends) (by simp [ends, other.symm])

/-- The type of a declaration list is read, whatever follows. -/
theorem typeName_of_written {tokens : List Token} {type : TypeName}
    (typed : TypeWritten tokens type) (follow : Feed) :
    typeName (tokens ++ follow) = .accepted type follow := by
  cases typed with
  | @plain type kind =>
    have other : type.kind ≠ .keyword .constWord := by
      intro same
      rw [same] at kind
      cases kind
    simp [typeName, other, typeWord, satisfy_more kind]
  | const first kind => simp [typeName, first, word_more first, typeWord, satisfy_more kind]

/-- One declared variable is read if the budget is large enough. -/
theorem eventually_declarator {type : TypeName} {tokens : List Token} {steps : List Declaration}
    (declared : DeclaratorWritten type tokens steps) :
    Eventually fun budget => ∀ follow, AtEither .comma .semicolon follow →
      declarator (expr budget) type (tokens ++ follow) = .accepted steps follow := by
  cases declared with
  | plain kind =>
    refine .always fun budget follow ends => ?_
    have other : follow.kind ≠ .mark .assign := by
      rcases ends with ends | ends
      all_goals simp [ends]
    simp [declarator, name, eat_more kind, other]
  | initial kind assigns inner =>
    refine (eventually_expr inner).mono fun budget reads follow ends => ?_
    have back := reads follow (by rcases ends with ends | ends <;> rw [ends] <;> rfl)
    simp [declarator, name, eat_more kind, assigns, mark_more assigns, back]

/-- A declaration list is read if the budget is large enough. -/
theorem eventually_declarations {tokens : List Token} {steps : List Declaration}
    (declared : DeclarationsWritten tokens steps) :
    Eventually fun budget => ∀ follow : Feed,
      declarations (expr budget) (tokens ++ follow) = .accepted steps follow := by
  obtain ⟨typed, head, tail, ends⟩ := declared
  rename_i type front middle behind semicolon first others
  have others := eventually_manyBehind (by decide)
    (fun budget => reads_declarator (reads_expr budget) type)
    (fun _ _ declared => eventually_declarator declared) tail
  refine ((eventually_declarator head).and others).mono ?_
  rintro budget ⟨readsHead, readsTail⟩ follow
  have typed := typeName_of_written typed (middle ++ (behind ++ Feed.more semicolon follow))
  have head := readsHead (behind ++ Feed.more semicolon follow) (atEither_of_star tail ends)
  have tail : (ParserLike.manyAt (.mark .comma) (nextDeclarator (expr budget) type) : Parser _)
      (behind ++ Feed.more semicolon follow) = _ := readsTail (.more semicolon follow) ends
  simp [declarations, typed, head, tail, mark_more ends]

/-- An expression does not begin like an assignment. -/
theorem startsWith_assignmentAhead {rank : Nat} {tokens : List Token} {tree : Expr}
    (inner : written rank tokens tree) {follow : Feed} (plain : follow.kind.isAssignment = false) :
    (tokens ++ follow).startsWith assignmentAhead = false := by
  obtain ⟨cost, writes⟩ := inner
  have unassigning := writes.unassigning
  obtain ⟨first, behind, rfl, -⟩ := writes.begins.startsExpr
  cases behind with
  | nil =>
    have second : follow.current.kind.isAssignment = false := plain
    simp [assignmentAhead, Feed.startsWith, second]
  | cons second behind =>
    simp only [List.all_cons, Bool.and_eq_true, Bool.not_eq_true'] at unassigning
    simp [assignmentAhead, Feed.startsWith, unassigning.2.1]

/-- An action is read if the budget is large enough. -/
theorem eventually_action {tokens : List Token} {action : Simple}
    (acts : ActionWritten tokens action) :
    Eventually fun budget => ∀ follow, AtEither .semicolon .rightParen follow →
      assignmentOr (expr budget) (tokens ++ follow) = .accepted action follow := by
  cases acts with
  | assign kind assigns inner =>
    refine (eventually_expr inner).mono fun budget reads follow ends => ?_
    have back := reads follow (by rcases ends with ends | ends <;> rw [ends] <;> rfl)
    simp [assignmentOr, assignmentAhead, Feed.startsWith, isKind, kind, assigns, name,
      eat_more kind, satisfy_more assigns, back]
  | evaluate inner =>
    refine (eventually_expr inner).mono fun budget reads follow ends => ?_
    have back := reads follow (by rcases ends with ends | ends <;> rw [ends] <;> rfl)
    have other := @startsWith_assignmentAhead _ _ _ inner follow
      (by rcases ends with ends | ends <;> rw [ends] <;> rfl)
    simp [assignmentOr, other, back]

/-- An action begins with a token that may begin an expression. -/
theorem startsExpr_of_action {tokens : List Token} {action : Simple}
    (acts : ActionWritten tokens action) :
    ∃ token behind, tokens = token :: behind ∧ token.kind.startsExpr = true := by
  cases acts with
  | assign kind assigns inner => exact ⟨_, _, rfl, by rw [kind]; rfl⟩
  | evaluate inner =>
    obtain ⟨cost, writes⟩ := inner
    exact writes.begins.startsExpr

/-- A simple statement is read if the budget is large enough. -/
theorem eventually_simple {tokens : List Token} {statement : Simple}
    (writes : SimpleWritten tokens statement) :
    Eventually fun budget => ∀ follow : Feed,
      simple (expr budget) (tokens ++ follow) = .accepted statement follow := by
  cases writes with
  | nothing ends => exact .always fun budget follow => by simp [simple, ends, mark_more ends]
  | @action tokens semicolon _ acts ends =>
    refine (eventually_action acts).mono fun budget reads follow => ?_
    have back := reads (.more semicolon follow) (.inl ends)
    obtain ⟨first, behind, rfl, starts⟩ := startsExpr_of_action acts
    have other : first.kind ≠ .mark .semicolon := by
      intro same
      rw [same] at starts
      cases starts
    simp only [Feed.cons_append] at back
    simp [simple, other, back, mark_more ends]

/-- How tokens begin decides whether declarations are read. -/
theorem atDeclaration_append {tokens : List Token} (some : tokens ≠ []) (follow : Feed) :
    atDeclaration (tokens ++ follow) = declaresAhead tokens := by
  cases tokens with
  | nil => exact absurd rfl some
  | cons token tokens => rfl

/-- A declaration list begins like one. -/
theorem declaresAhead_of_declarations {tokens : List Token} {steps : List Declaration}
    (declared : DeclarationsWritten tokens steps) : declaresAhead tokens = true := by
  obtain ⟨typed, -, -, -⟩ := declared
  cases typed with
  | plain kind => simp [declaresAhead, Kind.declares, kind]
  | const first kind => simp [declaresAhead, Kind.declares, first]

/-- A simple statement is never without tokens. -/
theorem simple_ne_nil {tokens : List Token} {statement : Simple}
    (writes : SimpleWritten tokens statement) : tokens ≠ [] := by
  cases writes <;> simp

/-- What a `for` statement begins with is read if the budget is large enough. -/
theorem eventually_forStart {tokens : List Token} {start : ForStart}
    (begins : ForStartWritten tokens start) :
    Eventually fun budget => ∀ follow : Feed,
      forStart (expr budget) (tokens ++ follow) = .accepted start follow := by
  cases begins with
  | declarations inner =>
    refine (eventually_declarations inner).mono fun budget reads follow => ?_
    have declares := atDeclaration_append (declarations_ne_nil inner) follow
    rw [declaresAhead_of_declarations inner] at declares
    simp [forStart, choose, declares, reads follow]
  | simple inner other =>
    refine (eventually_simple inner).mono fun budget reads follow => ?_
    have declares := atDeclaration_append (simple_ne_nil inner) follow
    rw [other] at declares
    simp [forStart, choose, declares, reads follow]

/-- What a `for` statement does after each round is read if the budget is large enough. -/
theorem eventually_forAction {tokens : List Token} {action : Simple}
    (acts : ForActionWritten tokens action) :
    Eventually fun budget => ∀ follow : Feed, follow.kind = .mark .rightParen →
      forAction (expr budget) (tokens ++ follow) = .accepted action follow := by
  cases acts with
  | nothing => exact .always fun budget follow ends => by simp [forAction, ends]
  | action inner =>
    refine (eventually_action inner).mono fun budget reads follow ends => ?_
    have back := reads follow (.inr ends)
    obtain ⟨first, behind, rfl, starts⟩ := startsExpr_of_action inner
    have other : first.kind ≠ .mark .rightParen := by
      intro same
      rw [same] at starts
      cases starts
    simp only [Feed.cons_append] at back
    simp [forAction, other, back]

/-- The label of a case is read, whatever follows. -/
theorem caseLabel_of_written {tokens : List Token} {label : Expr} (named : labels tokens label)
    (follow : Feed) : caseLabel (tokens ++ follow) = .accepted label follow := by
  obtain ⟨token, rfl, writes⟩ := named
  generalize one : [token] = tokens at writes
  generalize 0 = cost at writes
  cases writes with
  | name kind =>
    cases one
    simp [caseLabel, kind, name, eat_more kind]
  | number kind =>
    cases one
    rcases kind with kind | kind | kind
    all_goals simp [caseLabel, constant, kind]
  | string kind =>
    cases one
    simp [caseLabel, constant, kind]
  | truth kind =>
    cases one
    rcases kind with kind | kind
    all_goals simp [caseLabel, constant, kind]
  | paren opening inner closing => simp at one
  | binary first kind tight second =>
    have bound := (Mark.tightness_bounds tight).2
    simp only [Rank.primary] at bound
    omega
  | tighter other inner =>
    have bound := rank_le_of_writes inner
    simp only [Rank.primary] at bound
    omega

/-- A statement begins with a token that may begin one. -/
theorem startsStatement_of_statements {tokens : List Token} {tree : Stmt}
    (writes : statements tokens tree) :
    ∃ token behind, tokens = token :: behind ∧ token.kind.startsStatement = true := by
  cases writes with
  | simple inner =>
    cases inner with
    | nothing ends => exact ⟨_, _, rfl, by rw [ends]; rfl⟩
    | action acts ends =>
      obtain ⟨first, behind, rfl, starts⟩ := startsExpr_of_action acts
      exact ⟨_, _, rfl, by simp [Kind.startsStatement, starts]⟩
  | block opens inner closes => exact ⟨_, _, rfl, by rw [opens]; rfl⟩
  | branch first opens test closes inner => exact ⟨_, _, rfl, by rw [first]; rfl⟩
  | branchElse first opens test closes inner closed second last =>
    exact ⟨_, _, rfl, by rw [first]; rfl⟩
  | whileLoop first opens test closes inner => exact ⟨_, _, rfl, by rw [first]; rfl⟩
  | doLoop first inner second opens test closes ends => exact ⟨_, _, rfl, by rw [first]; rfl⟩
  | forLoop first opens begins test step closes inner => exact ⟨_, _, rfl, by rw [first]; rfl⟩
  | returnNothing first ends => exact ⟨_, _, rfl, by rw [first]; rfl⟩
  | returnValue first inner ends => exact ⟨_, _, rfl, by rw [first]; rfl⟩
  | breakOut first ends => exact ⟨_, _, rfl, by rw [first]; rfl⟩
  | continueLoop first ends => exact ⟨_, _, rfl, by rw [first]; rfl⟩
  | switch first opens test closes enters choices last leaves =>
    exact ⟨_, _, rfl, by rw [first]; rfl⟩
  | print first head tail ends => exact ⟨_, _, rfl, by rw [first]; rfl⟩

end Grammar

end Cpplet

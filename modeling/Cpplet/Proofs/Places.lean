import Cpplet.Proofs.Recognition

/-!
# Where expressions and statements stand

The place of a tree is computed from the tree: that of a sum is that of its left operand, that of
a loop is that of its keyword. Parentheses leave no trace in a tree, and neither do those around
the type of a cast, so the place is not always that of the first token. It is always that of the
first token which is no opening parenthesis. Trees are looked at here as the grammar writes them
(`Writes`, `PhraseWritten`), since the parsers read nothing else; so there is one case for each
production, whatever the budget and however the parsers are made.
-/

namespace Cpplet

/-- The first of some tokens that is no opening parenthesis. -/
def firstInside (tokens : List Token) : Option Token :=
  tokens.find? fun token => token.kind ≠ .mark .leftParen

/-- A token that is no opening parenthesis is the first such token where it stands in front. -/
theorem firstInside_cons {token : Token} (inner : token.kind ≠ .mark .leftParen)
    (behind : List Token) : firstInside (token :: behind) = some token :=
  List.find?_cons_of_pos (decide_eq_true inner)

/-- An opening parenthesis in front is passed over. -/
theorem firstInside_paren {left : Token} (opening : left.kind = .mark .leftParen)
    (behind : List Token) : firstInside (left :: behind) = firstInside behind := by
  unfold firstInside
  exact List.find?_cons_of_neg (by simp [opening])

/-- What stands behind the first token that is no opening parenthesis does not matter. -/
theorem firstInside_append {front : List Token} {token : Token}
    (found : firstInside front = some token) (behind : List Token) :
    firstInside (front ++ behind) = some token := by
  unfold firstInside at found ⊢
  rw [List.find?_append, found]
  rfl

/-- A lookahead that is no opening parenthesis is the first such token of its feed. -/
theorem firstInside_tokens {feed : Feed} (inner : feed.kind ≠ .mark .leftParen) :
    firstInside feed.tokens = some feed.current := by
  obtain ⟨behind, same⟩ := feed.tokens_eq_current_cons
  rw [same]
  exact firstInside_cons inner behind

/-- Whether the first of some tokens that is no opening parenthesis stands at a place. -/
def Anchors (tokens : List Token) (place : Location) : Prop :=
  ∃ token, firstInside tokens = some token ∧ place = token.location

/-- Tokens are anchored at the first of them if it is of a kind that is no opening parenthesis. -/
theorem anchors_head {token : Token} {kind : Kind} (same : token.kind = kind)
    (inner : kind ≠ .mark .leftParen) (behind : List Token) :
    Anchors (token :: behind) token.location :=
  ⟨token, firstInside_cons (same ▸ inner) behind, rfl⟩

namespace Anchors

variable {tokens : List Token} {place : Location}

/-- An opening parenthesis in front changes no place. -/
theorem paren (anchors : Anchors tokens place) {left : Token}
    (opening : left.kind = .mark .leftParen) : Anchors (left :: tokens) place := by
  obtain ⟨token, found, same⟩ := anchors
  exact ⟨token, by rw [firstInside_paren opening, found], same⟩

/-- What stands behind changes no place. -/
theorem append (anchors : Anchors tokens place) (behind : List Token) :
    Anchors (tokens ++ behind) place := by
  obtain ⟨token, found, same⟩ := anchors
  exact ⟨token, firstInside_append found behind, same⟩

end Anchors

/-- An expression stands where the first of its tokens stands that is no opening parenthesis. -/
theorem Writes.anchors {rank : Nat} {tokens : List Token} {tree : Expr} {cost : Nat}
    (writes : Writes rank tokens tree cost) : Anchors tokens tree.location := by
  have types {type : Token} (kind : type.kind.isType = true) (behind : List Token) :
      Anchors (type :: behind) type.location := by
    refine anchors_head rfl ?_ behind
    intro same
    rw [same] at kind
    cases kind
  have marks {op : Token} {symbol : Mark} (kind : op.kind = .mark symbol)
      (first : (symbol.isStep || symbol.isSign) = true) (behind : List Token) :
      Anchors (op :: behind) op.location := by
    refine anchors_head kind ?_ behind
    rintro ⟨⟩
    cases first
  induction writes with
  | name kind => exact anchors_head kind (by decide) []
  | number kind =>
    rcases kind with kind | kind | kind
    all_goals exact anchors_head kind (by decide) []
  | string kind => exact anchors_head kind (by decide) []
  | truth kind =>
    rcases kind with kind | kind
    all_goals exact anchors_head kind (by decide) []
  | paren opening inner closing ih => exact (ih.append _).paren opening
  | postStep inner kind step ih => exact ih.append _
  | preStep kind step inner ih => exact marks kind (by rw [step]; rfl) _
  | unary kind sign inner ih => exact marks kind (by rw [sign, Bool.or_true]) _
  | operand inner ih => exact ih
  | cast opening kind closing inner ih => exact (types kind _).paren opening
  | call kind opening inner closing ih => exact types kind _
  | binary first kind tight second ihFirst ihSecond => exact ihFirst.append _
  | conditional test asks first parts second ihTest ihFirst ihSecond => exact ihTest.append _
  | tighter other inner ih => exact ih

/-- Whether a statement stands where the first of some tokens stands that is no opening
parenthesis. The one statement that stands nowhere is written by a semicolon alone, and no other
statement begins with one. -/
def Stmt.Anchored (tokens : List Token) (tree : Stmt) : Prop :=
  ∃ head behind, tokens = head :: behind ∧
    (head.kind = .mark .semicolon ∧ tree = .simple .nothing ∨
      head.kind ≠ .mark .semicolon ∧ ∃ place, tree.location? = some place ∧ Anchors tokens place)

/-- A statement that stands at its first token, which is a keyword or a brace or a name. -/
theorem anchored_head {head : Token} {kind : Kind} {tree : Stmt} (first : head.kind = kind)
    (inner : kind ≠ .mark .leftParen) (other : kind ≠ .mark .semicolon)
    (place : tree.location? = some head.location) (behind : List Token) :
    tree.Anchored (head :: behind) :=
  ⟨head, behind, rfl, .inr ⟨first ▸ other, _, place, anchors_head first inner behind⟩⟩

/-- A statement without statements inside stands where the first of its tokens stands that is no
opening parenthesis. -/
theorem SimpleWritten.anchored {tokens : List Token} {statement : Simple}
    (writes : SimpleWritten tokens statement) : (Stmt.simple statement).Anchored tokens := by
  cases writes with
  | nothing ends => exact ⟨_, [], rfl, .inl ⟨ends, rfl⟩⟩
  | @action tokens semicolon _ acts ends =>
    obtain ⟨head, behind, rfl, starts⟩ := Grammar.startsExpr_of_action acts
    have other : head.kind ≠ .mark .semicolon := by
      intro same
      rw [same] at starts
      cases starts
    refine ⟨head, behind ++ [semicolon], rfl, .inr ⟨other, ?_⟩⟩
    cases acts with
    | assign kind assigns inner =>
      exact ⟨head.location, rfl, anchors_head kind (by decide) _⟩
    | @evaluate _ expr inner =>
      obtain ⟨cost, writes⟩ := inner
      exact ⟨expr.location, rfl, writes.anchors.append [semicolon]⟩

/-- A statement stands where the first of its tokens stands that is no opening parenthesis. -/
theorem anchored_of_statements {tokens : List Token} {tree : Stmt}
    (writes : statements tokens tree) : tree.Anchored tokens := by
  cases writes with
  | simple inner => exact inner.anchored
  | block opens => exact anchored_head opens (by decide) (by decide) rfl _
  | branch first => exact anchored_head first (by decide) (by decide) rfl _
  | branchElse first => exact anchored_head first (by decide) (by decide) rfl _
  | whileLoop first => exact anchored_head first (by decide) (by decide) rfl _
  | doLoop first => exact anchored_head first (by decide) (by decide) rfl _
  | forLoop first => exact anchored_head first (by decide) (by decide) rfl _
  | returnNothing first => exact anchored_head first (by decide) (by decide) rfl _
  | returnValue first => exact anchored_head first (by decide) (by decide) rfl _
  | breakOut first => exact anchored_head first (by decide) (by decide) rfl _
  | continueLoop first => exact anchored_head first (by decide) (by decide) rfl _
  | switch first => exact anchored_head first (by decide) (by decide) rfl _
  | print first => exact anchored_head first (by decide) (by decide) rfl _

/-- What a parser accepts was written by tokens in front of what it left. -/
theorem Parser.Reads.tokens_eq {α : Type} {parser : Parser α} {language : Language α}
    (reads : parser.Reads language) {feed rest : Feed} {value : α}
    (accepted : parser feed = .accepted value rest) :
    ∃ tokens, language tokens value ∧ feed = tokens ++ rest := by
  have fits := reads.fits feed
  rw [accepted] at fits
  obtain ⟨tokens, split, member⟩ := fits
  exact ⟨tokens, member, split⟩

/-- Wherever an expression is parsed, it stands where the first token from the lookahead on stands
that is no opening parenthesis. Wherever a statement is parsed, it is the empty statement, which
stands nowhere, if the lookahead is a semicolon; and otherwise it stands where that token stands,
which is the lookahead itself unless this is an opening parenthesis. -/
theorem stands_at_firstInside (budget : Nat) (feed : Feed) :
    (∀ tree rest, Grammar.expr budget feed = .accepted tree rest →
      ∃ token, firstInside feed.tokens = some token ∧ tree.location = token.location) ∧
    ∀ tree rest, Grammar.statement budget feed = .accepted tree rest →
      feed.kind = .mark .semicolon ∧ tree = .simple .nothing ∧ tree.location? = none ∨
      feed.kind ≠ .mark .semicolon ∧
        ∃ token, firstInside feed.tokens = some token ∧ tree.location? = some token.location ∧
          (feed.kind ≠ .mark .leftParen → token = feed.current) := by
  constructor
  · intro tree rest accepted
    obtain ⟨tokens, ⟨cost, writes⟩, rfl⟩ := (Grammar.reads_expr budget).tokens_eq accepted
    rw [Feed.tokens_append]
    exact writes.anchors.append rest.tokens
  · intro tree rest accepted
    obtain ⟨tokens, writes, rfl⟩ := (Grammar.reads_statement budget).tokens_eq accepted
    obtain ⟨head, behind, rfl, ⟨semicolon, rfl⟩ | ⟨other, place, stands, anchors⟩⟩ :=
      anchored_of_statements writes
    · exact .inl ⟨semicolon, rfl, rfl⟩
    · obtain ⟨token, found, rfl⟩ := anchors.append rest.tokens
      rw [← Feed.tokens_append] at found
      refine .inr ⟨other, token, found, stands, ?_⟩
      intro inner
      have first := firstInside_tokens inner
      rw [found] at first
      exact Option.some.inj first

/-- The statement `(x);` stands where `x` stands, and so does the expression in it. -/
theorem stands_at_firstInside_parenthesized :
    let x : Token := ⟨.name, some (.name "x"), ⟨1, 2⟩⟩
    let feed : Feed := [Token.fixed (.mark .leftParen) ⟨1, 1⟩, x,
      Token.fixed (.mark .rightParen) ⟨1, 3⟩, Token.fixed (.mark .semicolon) ⟨1, 4⟩] ++
        Feed.eof ⟨1, 5⟩
    (Grammar.expr 4 feed = .accepted (.name x)
        (.more (Token.fixed (.mark .semicolon) ⟨1, 4⟩) (.eof ⟨1, 5⟩)) ∧
      ∃ token, firstInside feed.tokens = some token ∧ (Expr.name x).location = token.location) ∧
    Grammar.statement 5 feed = .accepted (.simple (.evaluate (.name x))) (.eof ⟨1, 5⟩) ∧
      ∃ token, firstInside feed.tokens = some token ∧
        (Stmt.simple (.evaluate (.name x))).location? = some token.location := by
  intro x feed
  have expression : Grammar.expr 4 feed = .accepted (.name x)
      (.more (Token.fixed (.mark .semicolon) ⟨1, 4⟩) (.eof ⟨1, 5⟩)) := rfl
  have statement : Grammar.statement 5 feed =
      .accepted (.simple (.evaluate (.name x))) (.eof ⟨1, 5⟩) := rfl
  refine ⟨⟨expression, (stands_at_firstInside 4 feed).1 _ _ expression⟩, statement, ?_⟩
  rcases (stands_at_firstInside 5 feed).2 _ _ statement with ⟨-, nothing, -⟩ |
    ⟨-, token, found, stands, -⟩
  · cases nothing
  · exact ⟨token, found, stands⟩

end Cpplet

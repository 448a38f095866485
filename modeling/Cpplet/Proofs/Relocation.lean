import Cpplet.Grammar.Program
import Cpplet.Proofs.Parsers

/-!
# Moving every place

Tokens carry their places into trees and errors, and nothing is decided by a place. So a parser
does with a feed whose places are moved what it does with the feed itself, with the places moved
in what it accepts, in what it rejects and in what it leaves. `Parser.Mirrors` says this of a
parser and another, which differ at most in the places of the values that they were given; it is
kept by everything that parsers are made of.

To erase all places is to move them to one (`Placed.erase`).
-/

namespace Cpplet

/-- Values that hold places, all of which can be moved at once. -/
class Placed (α : Type) where
  /-- The value with every place moved. -/
  relocate (move : Location → Location) (value : α) : α

/-- The value with all places forgotten. -/
def Placed.erase {α : Type} [Placed α] (value : α) : α := relocate (fun _ => .start) value

variable {α β : Type} [Placed α] [Placed β]

instance : Placed Kind := ⟨fun _ kind => kind⟩

instance : Placed (List α) := ⟨fun move => List.map (Placed.relocate move)⟩

instance : Placed (Option α) := ⟨fun move => Option.map (Placed.relocate move)⟩

instance : Placed (α × β) :=
  ⟨fun move pair => (Placed.relocate move pair.1, Placed.relocate move pair.2)⟩

/-- A token at another place. -/
def Token.relocate (move : Location → Location) (token : Token) : Token :=
  { token with location := move token.location }

instance : Placed Token := ⟨Token.relocate⟩

/-- An expression at other places. -/
def Expr.relocate (move : Location → Location) : Expr → Expr
  | .name token => .name (token.relocate move)
  | .number token => .number (token.relocate move)
  | .string token => .string (token.relocate move)
  | .truth token => .truth (token.relocate move)
  | .unary op operand => .unary (op.relocate move) (operand.relocate move)
  | .cast type operand => .cast (type.relocate move) (operand.relocate move)
  | .preStep op operand => .preStep (op.relocate move) (operand.relocate move)
  | .postStep operand op => .postStep (operand.relocate move) (op.relocate move)
  | .binary left op right =>
    .binary (left.relocate move) (op.relocate move) (right.relocate move)
  | .conditional condition whenTrue whenFalse =>
    .conditional (condition.relocate move) (whenTrue.relocate move) (whenFalse.relocate move)

instance : Placed Expr := ⟨Expr.relocate⟩

instance : Placed TypeName :=
  ⟨fun move type => { type with token := type.token.relocate move }⟩

instance : Placed Declaration where
  relocate move
    | .declare type name => .declare (Placed.relocate move type) (name.relocate move)
    | .initial target op value =>
      .initial (target.relocate move) (op.relocate move) (value.relocate move)

instance : Placed Simple where
  relocate move
    | .nothing => .nothing
    | .assign target op value =>
      .assign (target.relocate move) (op.relocate move) (value.relocate move)
    | .evaluate expr => .evaluate (expr.relocate move)

instance : Placed ForStart where
  relocate move
    | .declarations steps => .declarations (Placed.relocate move steps)
    | .simple statement => .simple (Placed.relocate move statement)

mutual

/-- A statement at other places. -/
def Stmt.relocate (move : Location → Location) : Stmt → Stmt
  | .block brace items => .block (brace.relocate move) (Stmt.relocateAll move items)
  | .declare type name => .declare (Placed.relocate move type) (name.relocate move)
  | .simple statement => .simple (Placed.relocate move statement)
  | .print word items => .print (word.relocate move) (Placed.relocate move items)
  | .branch word condition body otherwise =>
    .branch (word.relocate move) (condition.relocate move) (body.relocate move)
      (Stmt.relocateElse move otherwise)
  | .whileLoop word condition body =>
    .whileLoop (word.relocate move) (condition.relocate move) (body.relocate move)
  | .doLoop word body condition =>
    .doLoop (word.relocate move) (body.relocate move) (condition.relocate move)
  | .forLoop word start condition action body =>
    .forLoop (word.relocate move) (Placed.relocate move start) (Placed.relocate move condition)
      (Placed.relocate move action) (body.relocate move)
  | .breakOut word => .breakOut (word.relocate move)
  | .continueLoop word => .continueLoop (word.relocate move)
  | .returnBack word value => .returnBack (word.relocate move) (Placed.relocate move value)
  | .switch word condition cases fallback =>
    .switch (word.relocate move) (condition.relocate move) (Case.relocateAll move cases)
      (Stmt.relocateFallback move fallback)

/-- Statements one after the other at other places. -/
def Stmt.relocateAll (move : Location → Location) : List Stmt → List Stmt
  | [] => []
  | statement :: others => statement.relocate move :: Stmt.relocateAll move others

/-- The second statement of a choice at other places. -/
def Stmt.relocateElse (move : Location → Location) : Option Stmt → Option Stmt
  | none => none
  | some statement => some (statement.relocate move)

/-- A case at other places. -/
def Case.relocate (move : Location → Location) : Case → Case
  | .mk label body => .mk (label.relocate move) (Stmt.relocateAll move body)

/-- Cases one after the other at other places. -/
def Case.relocateAll (move : Location → Location) : List Case → List Case
  | [] => []
  | first :: others => first.relocate move :: Case.relocateAll move others

/-- The default of a choice between cases at other places. -/
def Stmt.relocateFallback (move : Location → Location) : Option (List Stmt) → Option (List Stmt)
  | none => none
  | some body => some (Stmt.relocateAll move body)

end

instance : Placed Stmt := ⟨Stmt.relocate⟩

instance : Placed Case := ⟨Case.relocate⟩

instance : Placed EntryPoint where
  relocate move entry :=
    ⟨entry.name.relocate move, entry.brace.relocate move, Placed.relocate move entry.body⟩

instance : Placed Grammar.Opening where
  relocate move
    | .includes header => .includes (header.relocate move)
    | .uses space => .uses (space.relocate move)
    | .declares steps => .declares (Placed.relocate move steps)

instance : Placed Program where
  relocate move program :=
    { includes := Placed.relocate move program.includes
      usings := Placed.relocate move program.usings
      before := Placed.relocate move program.before
      entry := Placed.relocate move program.entry
      after := Placed.relocate move program.after }

/-- Statements are moved one by one. -/
theorem Stmt.relocateAll_eq (move : Location → Location) (statements : List Stmt) :
    Stmt.relocateAll move statements = Placed.relocate move statements := by
  induction statements with
  | nil => rfl
  | cons statement others ih =>
    rw [Stmt.relocateAll, ih]
    rfl

/-- Cases are moved one by one. -/
theorem Case.relocateAll_eq (move : Location → Location) (cases : List Case) :
    Case.relocateAll move cases = Placed.relocate move cases := by
  induction cases with
  | nil => rfl
  | cons first others ih =>
    rw [Case.relocateAll, ih]
    rfl

/-- A missing default stays missing. -/
theorem Stmt.relocateFallback_eq (move : Location → Location) (fallback : Option (List Stmt)) :
    Stmt.relocateFallback move fallback = Placed.relocate move fallback := by
  cases fallback with
  | none => rfl
  | some body =>
    rw [Stmt.relocateFallback, Stmt.relocateAll_eq]
    rfl

namespace Placed

variable (move : Location → Location)

/-- Lists are moved one behind the other. -/
theorem relocate_append (first second : List α) :
    relocate move (first ++ second) = relocate move first ++ relocate move second :=
  List.map_append

/-- Lists of lists are moved list by list. -/
theorem relocate_flatten (lists : List (List α)) :
    relocate move lists.flatten = (relocate move lists).flatten :=
  List.map_flatten

/-- Selecting does not depend on places, if it does not in each case. -/
theorem relocate_filterMap (select : α → Option β)
    (blind : ∀ value, select (relocate move value) = relocate move (select value))
    (values : List α) :
    relocate move (values.filterMap select) = (relocate move values).filterMap select := by
  induction values with
  | nil => rfl
  | cons value values ih =>
    have step := blind value
    show _ = List.filterMap select (relocate move value :: relocate move values)
    cases selected : select value with
    | none =>
      rw [selected] at step
      rw [List.filterMap_cons_none selected, ih, List.filterMap_cons_none step]
    | some found =>
      rw [selected] at step
      rw [List.filterMap_cons_some selected, List.filterMap_cons_some step, ← ih]
      rfl

/-- Collecting does not depend on places, if it does not in each case. -/
theorem relocate_flatMap (collect : α → List β)
    (blind : ∀ value, collect (relocate move value) = relocate move (collect value))
    (values : List α) :
    relocate move (values.flatMap collect) = (relocate move values).flatMap collect := by
  induction values with
  | nil => rfl
  | cons value values ih =>
    show _ = List.flatMap collect (relocate move value :: relocate move values)
    rw [List.flatMap_cons, List.flatMap_cons, relocate_append, ih, blind]

end Placed

/-- A cursor at another place. -/
def Cursor.relocate (move : Location → Location) (cursor : Cursor) : Cursor :=
  { cursor with location := move cursor.location }

/-- A lexical error at another place. -/
def LexicalError.relocate (move : Location → Location) (error : LexicalError) : LexicalError :=
  { error with location := move error.location }

/-- A fault at other places. -/
def Fault.relocate (move : Location → Location) (fault : Fault) : Fault :=
  ⟨fault.error.relocate move, fault.stop.relocate move⟩

/-- A breach with the token that was found at another place. -/
def Breach.relocate (move : Location → Location) : Breach → Breach
  | .unexpected expected found => .unexpected expected (found.relocate move)
  | .tooDeep nested => .tooDeep nested

/-- A syntax error at another place. -/
def SyntaxError.relocate (move : Location → Location) (error : SyntaxError) : SyntaxError :=
  ⟨error.breach.relocate move, move error.location⟩

/-- An error of a source at another place. -/
def SourceError.relocate (move : Location → Location) : SourceError → SourceError
  | .lexical error => .lexical (error.relocate move)
  | .grammatical error => .grammatical (error.relocate move)

/-- The wording of a breach does not depend on places. -/
theorem Breach.message_relocate (move : Location → Location) (breach : Breach) :
    (breach.relocate move).message = breach.message := by
  cases breach <;> rfl

namespace Feed

/-- A feed at other places. -/
def relocate (move : Location → Location) : Feed → Feed
  | .eof location => .eof (move location)
  | .last token fault => .last (token.relocate move) (fault.relocate move)
  | .more token rest => .more (token.relocate move) (rest.relocate move)

variable (move : Location → Location)

/-- The lookahead is moved with the feed. -/
@[simp]
theorem current_relocate (feed : Feed) :
    (feed.relocate move).current = feed.current.relocate move := by
  cases feed <;> rfl

/-- The kind of the lookahead stays. -/
@[simp]
theorem kind_relocate (feed : Feed) : (feed.relocate move).kind = feed.kind := by
  cases feed <;> rfl

/-- The size stays. -/
@[simp]
theorem size_relocate (feed : Feed) : (feed.relocate move).size = feed.size := by
  induction feed with
  | eof location => rfl
  | last token fault => rfl
  | more token rest ih => rw [relocate, size, size, ih]

/-- Tokens in front are moved with the feed. -/
theorem relocate_append (tokens : List Token) (feed : Feed) :
    (tokens ++ feed).relocate move = tokens.map (Token.relocate move) ++ feed.relocate move := by
  induction tokens with
  | nil => rfl
  | cons token tokens ih => rw [cons_append, relocate, ih, List.map_cons, cons_append]

/-- What comes behind the lookahead is moved with the feed. -/
theorem next_relocate_ok {feed rest : Feed} (passed : feed.next = .ok rest) :
    (feed.relocate move).next = .ok (rest.relocate move) := by
  cases feed <;> cases passed <;> rfl

/-- A fault behind the lookahead is moved with the feed. -/
theorem next_relocate_error {feed : Feed} {fault : Fault} (stuck : feed.next = .error fault) :
    (feed.relocate move).next = .error (fault.relocate move) := by
  cases feed <;> cases stuck
  rfl

/-- Looking ahead sees the same wherever the tokens stand, if its tests do. -/
theorem startsWith_relocate {tests : List (Token → Bool)}
    (blind : ∀ test ∈ tests, ∀ token : Token, test (token.relocate move) = test token)
    (feed : Feed) : (feed.relocate move).startsWith tests = feed.startsWith tests := by
  induction tests generalizing feed with
  | nil => cases feed <;> rfl
  | cons test tests ih =>
    have here := blind test (by simp)
    have later := ih fun other member => blind other (by simp [member])
    cases tests with
    | nil => simp only [startsWith, current_relocate, here]
    | cons next tests =>
      simp only [startsWith, current_relocate, here]
      cases passed : feed.next with
      | ok rest => simp only [next_relocate_ok move passed, later rest]
      | error fault => simp only [next_relocate_error move passed]

end Feed

/-- An outcome at other places. -/
def Outcome.relocate (move : Location → Location) : Outcome α → Outcome α
  | .accepted value rest => .accepted (Placed.relocate move value) (rest.relocate move)
  | .rejected error stop => .rejected (error.relocate move) (stop.relocate move)

/-- Outcomes that are the same at other places both accept or both reject. -/
theorem Outcome.cases_of_relocate_eq {move : Location → Location} {outcome other : Outcome α}
    (same : outcome.relocate move = other.relocate move) :
    (∃ value found rest last, outcome = .accepted value rest ∧ other = .accepted found last ∧
      Placed.relocate move value = Placed.relocate move found) ∨
    ∃ error failure stop last, outcome = .rejected error stop ∧ other = .rejected failure last ∧
      error.relocate move = failure.relocate move ∧ stop.relocate move = last.relocate move := by
  cases outcome with
  | accepted value rest =>
    cases other with
    | accepted found last =>
      injection same with values feeds
      exact .inl ⟨value, found, rest, last, rfl, rfl, values⟩
    | rejected failure last => cases same
  | rejected error stop =>
    cases other with
    | accepted found last => cases same
    | rejected failure last =>
      injection same with errors feeds
      exact .inr ⟨error, failure, stop, last, rfl, rfl, errors, feeds⟩

/-- Syntax errors that are the same at other places say the same. -/
theorem SyntaxError.message_of_relocate_eq {move : Location → Location} {error other : SyntaxError}
    (same : error.relocate move = other.relocate move) :
    error.breach.message = other.breach.message := by
  have breaches := congrArg SyntaxError.breach same
  calc error.breach.message
      = (error.breach.relocate move).message := (error.breach.message_relocate move).symm
    _ = (other.breach.relocate move).message := congrArg Breach.message breaches
    _ = other.breach.message := other.breach.message_relocate move

namespace Parser

variable {move : Location → Location}

/-- Whether a parser does with a feed at other places what another does with the feed itself, with
the places moved in the outcome. -/
def Mirrors (move : Location → Location) (parser mirror : Parser α) : Prop :=
  ∀ feed, mirror (feed.relocate move) = (parser feed).relocate move

/-- A value is mirrored by itself at other places. -/
theorem mirrors_pure {value image : α} (moved : image = Placed.relocate move value) :
    Mirrors move (Pure.pure value) (Pure.pure image) := by
  intro feed
  rw [moved]
  rfl

/-- Two parsers in a row are mirrored if both are. -/
theorem Mirrors.bind {first first' : Parser α} {second second' : α → Parser β}
    (mirrors : Mirrors move first first')
    (mirrorsNext : ∀ value, Mirrors move (second value) (second' (Placed.relocate move value))) :
    Mirrors move (first >>= second) (first' >>= second') := by
  intro feed
  rw [bind_apply, bind_apply, mirrors feed]
  cases first feed with
  | accepted value rest => exact mirrorsNext value rest
  | rejected error stop => rfl

/-- The same is expected wherever the lookahead stands. -/
theorem mirrors_unexpected (expected : Expectation) :
    Mirrors move (unexpected expected : Parser α) (unexpected expected) := by
  intro feed
  unfold unexpected
  rw [Feed.current_relocate]
  rfl

/-- Nesting is given up wherever the lookahead stands. -/
theorem mirrors_tooDeep (nested : Nesting) :
    Mirrors move (tooDeep nested : Parser α) (tooDeep nested) := by
  intro feed
  unfold tooDeep
  rw [Feed.current_relocate]
  rfl

/-- Moving past the lookahead is mirrored. -/
theorem mirrors_advance : Mirrors move advance advance := by
  intro feed
  cases feed <;> rfl

/-- Going on by the kind of the lookahead is mirrored if going on is. -/
theorem mirrors_kind {next next' : Kind → Parser α}
    (mirrors : ∀ kind, Mirrors move (next kind) (next' kind)) :
    Mirrors move (kind >>= next) (kind >>= next') := by
  intro feed
  have same := mirrors feed.kind feed
  simp only [bind_apply, kind_apply, Outcome.accepted_andThen, Feed.kind_relocate, same]

/-- Two ways to go on are mirrored if both are. -/
theorem mirrors_ite {test : Prop} [Decidable test] {yes yes' no no' : Parser α}
    (mirrorsYes : Mirrors move yes yes') (mirrorsNo : Mirrors move no no') :
    Mirrors move (if test then yes else no) (if test then yes' else no') := by
  split
  · exact mirrorsYes
  · exact mirrorsNo

/-- Two ways to go on, chosen by what does not depend on places, are mirrored if both are. -/
theorem mirrors_choose {test : Feed → Bool} {yes yes' no no' : Parser α}
    (blind : ∀ feed : Feed, test (feed.relocate move) = test feed)
    (mirrorsYes : Mirrors move yes yes') (mirrorsNo : Mirrors move no no') :
    Mirrors move (choose test yes no) (choose test yes' no') := by
  intro feed
  unfold choose
  rw [blind feed]
  split
  · exact mirrorsYes feed
  · exact mirrorsNo feed

/-- Two ways to go on, chosen by looking ahead, are mirrored if both are. -/
theorem mirrors_ahead {tests : List (Token → Bool)} {yes yes' no no' : Parser α}
    (blind : ∀ test ∈ tests, ∀ token : Token, test (token.relocate move) = test token)
    (mirrorsYes : Mirrors move yes yes') (mirrorsNo : Mirrors move no no') :
    Mirrors move (do if ← ahead tests then yes else no)
      (do if ← ahead tests then yes' else no') := by
  intro feed
  simp only [bind_apply, ahead_apply, Outcome.accepted_andThen,
    Feed.startsWith_relocate move blind]
  split
  · exact mirrorsYes feed
  · exact mirrorsNo feed

/-- Moving past a lookahead that passes a test is mirrored. -/
theorem mirrors_satisfy (test : Kind → Bool) (expected : Expectation) :
    Mirrors move (satisfy test expected) (satisfy test expected) := by
  have same : ∀ feed : Feed, test (feed.relocate move).kind = test feed.kind := by
    intro feed
    rw [Feed.kind_relocate]
  exact mirrors_choose same mirrors_advance (mirrors_unexpected expected)

/-- Moving past a token of one kind is mirrored. -/
theorem mirrors_eat (kind : Kind) : Mirrors move (eat kind) (eat kind) := mirrors_satisfy _ _

/-- Moving past a reserved word is mirrored. -/
theorem mirrors_word (keyword : Keyword) : Mirrors move (word keyword) (word keyword) :=
  mirrors_eat _

/-- Moving past a mark is mirrored. -/
theorem mirrors_mark (symbol : Mark) : Mirrors move (mark symbol) (mark symbol) := mirrors_eat _

/-- A repetition over a number of rounds is mirrored if each round is. -/
theorem manyWithin_relocate {go : Feed → Bool} {item item' : Parser α}
    (blind : ∀ feed : Feed, go (feed.relocate move) = go feed) (mirrors : Mirrors move item item')
    (rounds feed : Feed) :
    manyWithin go item' (rounds.relocate move) (feed.relocate move) =
      (manyWithin go item rounds feed).relocate move := by
  induction rounds generalizing feed with
  | eof location | last token fault =>
    rw [Feed.relocate, manyWithin, manyWithin, blind feed, mirrors feed]
    cases go feed with
    | false => rfl
    | true => cases item feed <;> rfl
  | more token rounds ih =>
    rw [Feed.relocate, manyWithin, manyWithin, blind feed, mirrors feed]
    cases go feed with
    | false => rfl
    | true =>
      cases item feed with
      | rejected error stop => rfl
      | accepted value rest =>
        simp only [Outcome.relocate, ↓reduceIte, ih rest]
        cases manyWithin go item rounds rest <;> rfl

/-- A repetition is mirrored if each round is. -/
theorem mirrors_many {go : Feed → Bool} {item item' : Parser α}
    (blind : ∀ feed : Feed, go (feed.relocate move) = go feed)
    (mirrors : Mirrors move item item') : Mirrors move (many go item) (many go item') :=
  fun feed => manyWithin_relocate blind mirrors feed feed

/-- A repetition as long as the lookahead is of one kind is mirrored if each round is. -/
theorem mirrors_manyAt (kind : Kind) {item item' : Parser α} (mirrors : Mirrors move item item') :
    Mirrors move (ParserLike.manyAt kind item) (ParserLike.manyAt kind item') :=
  mirrors_many (fun feed => by rw [Feed.kind_relocate]) mirrors

end Parser

end Cpplet

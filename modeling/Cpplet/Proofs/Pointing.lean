import Cpplet.Explorer.State
import Cpplet.Outline.Program
import Cpplet.Proofs.Lines
import Cpplet.Proofs.Shapes

/-!
# What an outline points to

The outline of a program takes the places of its nodes from the tokens of the tree. All of these
are tokens of the source, apart from joined headers, and those stand where their first part does.
So every row of an outline that points somewhere points at a token (`Outline.Shows`), and the
character that is found there, in the line and the column of the place, is the first of the token.
-/

namespace Cpplet

/-- Whether a token stands at one of some places. -/
def Token.At (points : Location → Prop) (token : Token) : Prop := points token.location

/-- Outlines whose nodes point to some places only. -/
inductive Outline.Shows (points : Location → Prop) : Outline → Prop where
  /-- The node does, and the nodes below it do. -/
  | node {label : String} {location : Option Location} {children : List Outline}
      (here : ∀ place ∈ location, points place) (below : ∀ child ∈ children, Shows points child) :
      Shows points (.node label location children)

variable {points : Location → Prop}

namespace Outline

/-- A row of several outlines is a row of one of them. -/
theorem exists_of_mem_rowsOfAll {row : Row} {depth : Nat} {outlines : List Outline}
    (member : row ∈ rowsOfAll depth outlines) :
    ∃ outline ∈ outlines, row ∈ rowsAt depth outline := by
  induction outlines with
  | nil => cases member
  | cons first others ih =>
    rw [rowsOfAll] at member
    rcases List.mem_append.mp member with here | later
    · exact ⟨first, List.mem_cons_self, here⟩
    · obtain ⟨outline, among, found⟩ := ih later
      exact ⟨outline, List.mem_cons_of_mem _ among, found⟩

/-- The rows of an outline point where its nodes do. -/
theorem Shows.rowsAt {outline : Outline} (shown : outline.Shows points) (depth : Nat) :
    ∀ row ∈ rowsAt depth outline, ∀ place ∈ row.location, points place := by
  induction shown generalizing depth with
  | node here below ih =>
    intro row member
    rw [Outline.rowsAt] at member
    rcases List.mem_cons.mp member with rfl | later
    · exact here
    · obtain ⟨child, among, found⟩ := exists_of_mem_rowsOfAll later
      exact ih child among (depth + 1) row found

/-- A node at a place points to the place and where the nodes below it do. -/
theorem shows_node {label : String} {place : Location} {children : List Outline}
    (here : points place) (below : ∀ child ∈ children, child.Shows points) :
    (Outline.node label (some place) children).Shows points := by
  refine .node ?_ below
  rintro _ ⟨⟩
  exact here

/-- A node at a place that has nothing below it points to the place. -/
theorem shows_leaf {label : String} {place : Location} (here : points place) :
    (Outline.node label (some place) []).Shows points :=
  shows_node here (List.forall_mem_nil _)

/-- A label row points nowhere. -/
theorem shows_slot {label : String} {content : Outline} (inner : content.Shows points) :
    (slot label content).Shows points :=
  .node (by simp) (List.forall_mem_singleton.mpr inner)

end Outline

open Outline

/-- The place of a shaped expression is that of a token. -/
theorem Expr.Shaped.location {expr : Expr} (shaped : expr.Shaped (Token.At points)) :
    points expr.location := by
  induction shaped with
  | name suits => exact suits.1
  | number suits => exact suits.1
  | string suits => exact suits.1
  | truth suits => exact suits.1
  | unary suits inner ih => exact suits.1
  | cast suits inner ih => exact suits.1
  | preStep suits inner ih => exact suits.1
  | postStep inner suits ih => exact ih
  | binary first suits second ihFirst ihSecond => exact ihFirst
  | conditional test first second ihTest ihFirst ihSecond => exact ihTest

/-- The outline of a shaped expression points at tokens. -/
theorem Expr.Shaped.shows {expr : Expr} (shaped : expr.Shaped (Token.At points)) :
    (ofExpr expr).Shows points := by
  induction shaped with
  | name suits => exact shows_leaf suits.1
  | number suits => exact shows_leaf suits.1
  | string suits => exact shows_leaf suits.1
  | truth suits => exact shows_leaf suits.1
  | unary suits inner ih => exact shows_node suits.1 (List.forall_mem_singleton.mpr ih)
  | cast suits inner ih => exact shows_node suits.1 (List.forall_mem_singleton.mpr ih)
  | preStep suits inner ih => exact shows_node suits.1 (List.forall_mem_singleton.mpr ih)
  | postStep inner suits ih => exact shows_node inner.location (List.forall_mem_singleton.mpr ih)
  | binary first suits second ihFirst ihSecond =>
    refine shows_node first.location ?_
    simp only [List.forall_mem_cons]
    exact ⟨ihFirst, ihSecond, List.forall_mem_nil _⟩
  | conditional test first second ihTest ihFirst ihSecond =>
    refine shows_node test.location ?_
    simp only [List.forall_mem_cons]
    exact ⟨shows_slot ihTest, shows_slot ihFirst, shows_slot ihSecond, List.forall_mem_nil _⟩

/-- A declared variable points at its type and its name. -/
theorem shows_declared {type : TypeName} {name : Token} (typed : type.Shaped (Token.At points))
    (named : name.Suits (Token.At points) (· = .name)) :
    (ofDeclared type name).Shows points := by
  refine shows_node typed.1 ?_
  simp only [List.forall_mem_cons]
  exact ⟨shows_leaf named.1, shows_leaf typed.1, List.forall_mem_nil _⟩

/-- An assignment points at its target and its value. -/
theorem shows_assignment (op : Token) {target : Token} {value : Expr}
    (named : target.Suits (Token.At points) (· = .name)) (inner : value.Shaped (Token.At points)) :
    (ofAssignment target op value).Shows points := by
  refine shows_node named.1 ?_
  simp only [List.forall_mem_cons]
  exact ⟨shows_leaf named.1, inner.shows, List.forall_mem_nil _⟩

/-- Declarations point at tokens. -/
theorem Declared.shows {steps : List Declaration} (declared : Declared (Token.At points) steps) :
    ∀ outline ∈ steps.map ofDeclaration, outline.Shows points := by
  induction declared with
  | nil => exact List.forall_mem_nil _
  | plain typed named tail ih =>
    exact List.forall_mem_cons.mpr ⟨shows_declared typed named, ih⟩
  | @initial type target op value others typed named assigns inner tail ih =>
    have assigned := shows_assignment op named inner
    exact List.forall_mem_cons.mpr
      ⟨shows_declared typed named, List.forall_mem_cons.mpr ⟨assigned, ih⟩⟩

/-- A simple statement points at tokens. -/
theorem Simple.Shaped.shows {statement : Simple} (shaped : statement.Shaped (Token.At points)) :
    (ofSimple statement).Shows points := by
  cases shaped with
  | nothing => exact .node (by simp) (List.forall_mem_nil _)
  | assign named assigns inner => exact shows_assignment _ named inner
  | evaluate inner => exact inner.shows

/-- The beginning of a `for` statement points at tokens. -/
theorem ForStart.Shaped.shows {start : ForStart} (shaped : start.Shaped (Token.At points)) :
    (ofForStart start).Shows points := by
  cases shaped with
  | declarations inner =>
    refine .node ?_ inner.shows
    cases inner with
    | nil => simp
    | plain typed named tail =>
      rintro _ ⟨⟩
      exact typed.1
    | initial typed named assigns value tail =>
      rintro _ ⟨⟩
      exact typed.1
  | simple inner => exact inner.shows

/-! ## Statements -/

/-- Statements are outlined one by one. -/
theorem Outline.ofStmts_eq_map (statements : List Stmt) :
    ofStmts statements = statements.map ofStmt := by
  induction statements with
  | nil => rfl
  | cons statement others ih => rw [ofStmts, ih, List.map_cons]

/-- Cases are outlined one by one. -/
theorem Outline.ofCases_eq_map (cases : List Case) : ofCases cases = cases.map ofCase := by
  induction cases with
  | nil => rfl
  | cons first others ih => rw [ofCases, ih, List.map_cons]

/-- The place of a shaped statement, where it has one, is that of a token. -/
theorem Stmt.Shaped.location {statement : Stmt} (shaped : statement.Shaped (Token.At points)) :
    ∀ place ∈ statement.location?, points place := by
  intro place found
  cases shaped with
  | block opens inner =>
    cases found
    exact opens.1
  | declare typed named =>
    cases found
    exact typed.1
  | simple inner =>
    cases inner with
    | nothing => cases found
    | assign named assigns value =>
      cases found
      exact named.1
    | evaluate value =>
      cases found
      exact value.location
  | print first | breakOut first | continueLoop first | returnBack first | branch first
  | whileLoop first | doLoop first | forLoop first | switch first =>
    cases found
    exact first.1

/-- Statements without a brace point at tokens if each of them does. -/
theorem shows_body {body : List Stmt}
    (shaped : ∀ item ∈ body, item.Shaped (Token.At points))
    (inner : ∀ item ∈ body, (ofStmt item).Shows points) :
    (Outline.node "Compound" (Stmt.listLocation? body) (ofStmts body)).Shows points := by
  refine .node ?_ ?_
  · intro place found
    obtain ⟨item, among, here⟩ := List.exists_of_findSome?_eq_some found
    exact (shaped item among).location place here
  · rw [ofStmts_eq_map]
    exact List.forall_mem_map.mpr inner

/-- The outline of a shaped statement points at tokens. -/
theorem Stmt.Shaped.shows {statement : Stmt} (shaped : statement.Shaped (Token.At points)) :
    (ofStmt statement).Shows points := by
  induction shaped with
  | block opens inner ih =>
    rw [ofStmt, ofStmts_eq_map]
    exact shows_node opens.1 (List.forall_mem_map.mpr ih)
  | declare typed named => exact shows_declared typed named
  | simple inner => exact inner.shows
  | print first some inner =>
    have items := List.forall_mem_map.mpr fun item member => (inner item member).shows
    exact shows_node first.1 items
  | @branch word condition body otherwise first test inner last ihInner ihLast =>
    have other : ∀ outline ∈ ofElse otherwise, outline.Shows points := by
      cases otherwise with
      | none => exact List.forall_mem_nil _
      | some other => exact List.forall_mem_singleton.mpr (shows_slot (ihLast other rfl))
    rw [ofStmt]
    refine shows_node first.1 ?_
    simp only [List.forall_mem_cons]
    exact ⟨shows_slot test.shows, shows_slot ihInner, other⟩
  | whileLoop first test inner ih =>
    refine shows_node first.1 ?_
    simp only [List.forall_mem_cons]
    exact ⟨shows_slot test.shows, shows_slot ih, List.forall_mem_nil _⟩
  | doLoop first inner test ih =>
    refine shows_node first.1 ?_
    simp only [List.forall_mem_cons]
    exact ⟨shows_slot ih, shows_slot test.shows, List.forall_mem_nil _⟩
  | forLoop first begins test step inner ih =>
    refine shows_node first.1 ?_
    simp only [List.forall_mem_cons]
    exact ⟨shows_slot begins.shows, shows_slot test.shows, shows_slot step.shows, shows_slot ih,
      List.forall_mem_nil _⟩
  | breakOut first => exact shows_leaf first.1
  | continueLoop first => exact shows_leaf first.1
  | @returnBack word value first inner =>
    have values : ∀ outline ∈ value.toList.map ofExpr, outline.Shows points := by
      refine List.forall_mem_map.mpr fun expr member => ?_
      exact (inner expr (Option.mem_toList.mp member)).shows
    exact shows_node first.1 values
  | @switch word condition cases fallback first test labels choices last ihChoices ihLast =>
    have each : ∀ outline ∈ ofCases cases, outline.Shows points := by
      rw [ofCases_eq_map]
      refine List.forall_mem_map.mpr ?_
      rintro ⟨label, body⟩ member
      have named := (labels label body member).2
      have inner := shows_body (choices label body member) (ihChoices label body member)
      refine shows_node named.location ?_
      simp only [List.forall_mem_cons]
      exact ⟨named.shows, inner, List.forall_mem_nil _⟩
    have other : ∀ outline ∈ ofFallback fallback, outline.Shows points := by
      cases fallback with
      | none => exact List.forall_mem_nil _
      | some body =>
        have inner := shows_body (last body rfl) (ihLast body rfl)
        exact List.forall_mem_singleton.mpr (shows_slot inner)
    rw [ofStmt]
    refine shows_node first.1 ?_
    simp only [List.cons_append, List.forall_mem_cons, List.forall_mem_append]
    exact ⟨shows_slot test.shows, each, other⟩

/-! ## Programs -/

/-- The outline of a shaped program points at tokens. -/
theorem Program.Shaped.shows {program : Program} (shaped : program.Shaped (Token.At points)) :
    program.outline.Shows points := by
  have imports (label : String) {names : List Token}
      (named : ∀ name ∈ names, name.Suits (Token.At points) (· = .name)) :
      ∀ outline ∈ names.map (ofImport label), outline.Shows points :=
    List.forall_mem_map.mpr fun name member => shows_leaf (named name member).1
  have entries : ∀ outline ∈ program.entry.toList.map ofEntryPoint, outline.Shows points := by
    refine List.forall_mem_map.mpr fun entry member => ?_
    have found := shaped.entry entry (Option.mem_toList.mp member)
    have items : ∀ outline ∈ ofStmts entry.body, outline.Shows points := by
      rw [ofStmts_eq_map]
      exact List.forall_mem_map.mpr fun item among => (found.inner item among).shows
    exact shows_node found.named.1 (List.forall_mem_singleton.mpr (shows_node found.opens.1 items))
  refine .node (by simp) ?_
  simp only [List.forall_mem_append]
  exact ⟨⟨⟨⟨imports _ shaped.includes, imports _ shaped.usings⟩, shaped.before.shows⟩, entries⟩,
    shaped.after.shows⟩

/-! ## What stands there -/

/-- A token of a chain of gaps and lexemes is what a lexeme denotes that stands in the text. -/
theorem Scanned.exists_lexeme {place : Location} {text : List Char} {tokens : List Token}
    (scanned : Scanned place text tokens) {token : Token} (member : token ∈ tokens)
    (inner : token.kind ≠ .eof) :
    ∃ (before : List Char) (lexeme : Lexeme) (behind : List Char),
      text = before ++ (lexeme.text ++ behind) ∧
      lexeme.Stands behind ∧ ¬ Trivia.Opens (lexeme.text ++ behind) ∧
      token = ⟨lexeme.kind, lexeme.value, place.past before⟩ := by
  induction scanned with
  | eof separates =>
    obtain rfl := List.mem_singleton.mp member
    exact absurd rfl inner
  | @token place gap behind lexeme tokens separates plain some stands rest ih =>
    rcases List.mem_cons.mp member with rfl | later
    · exact ⟨gap, lexeme, behind, rfl, stands, plain, rfl⟩
    · obtain ⟨before, found, last, rfl, standsLater, plainLater, rfl⟩ := ih later
      refine ⟨gap ++ (lexeme.text ++ before), found, last, by simp, standsLater, plainLater, ?_⟩
      rw [Location.past_append, Location.past_append]

/-- Where no gap opens, the first character neither ends a line nor is part of what does. -/
theorem Trivia.ne_of_not_opens {c : Char} {rest : List Char} (plain : ¬ Opens (c :: rest)) :
    c ≠ '\n' ∧ c ≠ '\r' := by
  have solid : Text.isBlank c ≠ true := fun blank => plain (.inl ⟨c, rfl, blank⟩)
  constructor
  · rintro rfl
    exact solid (by decide)
  · rintro rfl
    exact solid (by decide)

/-- A character of a text that neither ends a line nor is part of what does is found in the line
and the column of its place. -/
theorem Text.getElem?_lines {before rest : List Char} {c : Char} (noFeed : c ≠ '\n')
    (noReturn : c ≠ '\r') :
    ∃ number index body, Location.start.past before = ⟨number + 1, index + 1⟩ ∧
      (lines (before ++ c :: rest))[number]? = some body ∧ body[index]? = some c := by
  have inside : before.length ≤ (before ++ c :: rest).length := by simp
  have found : (before ++ c :: rest)[before.length]? = some c := by simp
  obtain ⟨number, earlier, body, ending, later, holds, numbered, place⟩ :=
    exists_lineAt_from 1 inside
  have here : body[before.length - earlier.length]? = some c := by
    have inner := holds.before_of_getElem? found noFeed noReturn
    rw [holds.getElem?_eq inner, found]
  refine ⟨number, before.length - earlier.length, body, ?_, ?_, here⟩
  · rw [List.take_left, Nat.add_comm 1] at place
    exact place
  · -- A line that holds a character is not the empty one that stands for a missing line.
    cases shown : (lines (before ++ c :: rest))[number]? with
    | some first => simpa [shown] using numbered
    | none =>
      rw [shown] at numbered
      rw [← numbered] at here
      cases here

/-- Whether a token other than the end of the file stands at a place. -/
def Location.HoldsToken (tokens : List Token) (place : Location) : Prop :=
  ∃ token ∈ tokens, token.kind ≠ .eof ∧ token.location = place

/-- Every place that is shown is that of a token, and the token stands there. In a source that is
parsed, each row of the outline that points somewhere points at a token of the source, and so do
the entries of the tree in the explorer. Each token of a source that can be listed is what a lexeme
of the source denotes, and the line and the column of its place hold the first character of the
lexeme. In both cases the end of the file does not count. -/
theorem places_are_tokens (source : String) :
    (∀ program, parse source = .ok program →
      ∃ tokens explorer, tokenize source = .ok tokens ∧ Explorer.ofSource source = .ok explorer ∧
        (∀ row ∈ program.outline.rows, ∀ place ∈ row.location, place.HoldsToken tokens) ∧
        ∀ entry ∈ explorer.treeEntries, ∀ place ∈ entry.location, place.HoldsToken tokens) ∧
    (∀ tokens, tokenize source = .ok tokens → ∀ token ∈ tokens, token.kind ≠ .eof →
      ∃ (before : List Char) (lexeme : Lexeme) (behind : List Char),
        source.toList = before ++ (lexeme.text ++ behind) ∧
        lexeme.Stands behind ∧ token = ⟨lexeme.kind, lexeme.value, Location.start.past before⟩ ∧
        ∃ number index body c, token.location = ⟨number + 1, index + 1⟩ ∧
          (Text.lines source.toList)[number]? = some body ∧ body[index]? = some c ∧
          lexeme.text.head? = some c) := by
  constructor
  · intro program parsed
    obtain ⟨tokens, listed⟩ := tokenize_of_parse parsed
    have shaped : program.Shaped (Token.At (Location.HoldsToken tokens)) :=
      Program.shaped_of_parse parsed listed (fun _ _ _ good => good) fun token member inner =>
        ⟨token, member, inner, rfl⟩
    have rows := shaped.shows.rowsAt 0
    refine ⟨tokens, Explorer.new source program tokens, listed, ?_, rows, ?_⟩
    · rw [Explorer.ofSource, parsed]
      simp only [listed]
    · exact List.forall_mem_map.mpr rows
  · intro tokens listed token member inner
    have scanned := tokenize_eq_ok_iff.mp listed
    obtain ⟨before, lexeme, behind, split, stands, plain, rfl⟩ := scanned.exists_lexeme member inner
    refine ⟨before, lexeme, behind, split, stands, rfl, ?_⟩
    -- No gap opens at a lexeme, so its first character is inside a line.
    obtain ⟨c, rest, spelled⟩ := List.exists_cons_of_ne_nil stands.text_ne_nil
    rw [spelled, List.cons_append] at split plain
    obtain ⟨noFeed, noReturn⟩ := Trivia.ne_of_not_opens plain
    obtain ⟨number, index, body, place, numbered, here⟩ :=
      @Text.getElem?_lines before (rest ++ behind) c noFeed noReturn
    rw [← split] at numbered
    exact ⟨number, index, body, c, place, numbered, here, by rw [spelled]; rfl⟩

/-- The row of the dotted header in `#include <a.b>`, on a second line, points at a token. -/
theorem places_are_tokens_header :
    ∃ program tokens, parse "\r\n#include <a.b>" = .ok program ∧
      tokenize "\r\n#include <a.b>" = .ok tokens ∧
      ⟨1, "Include a.b", some ⟨2, 11⟩⟩ ∈ program.outline.rows ∧
      Location.HoldsToken tokens ⟨2, 11⟩ := by
  obtain ⟨program, parsed, row⟩ : ∃ program, parse "\r\n#include <a.b>" = .ok program ∧
      ⟨1, "Include a.b", some ⟨2, 11⟩⟩ ∈ program.outline.rows :=
    ⟨_, by cbv, by decide⟩
  obtain ⟨shown, -⟩ := places_are_tokens "\r\n#include <a.b>"
  obtain ⟨tokens, explorer, listed, -, rows, -⟩ := shown program parsed
  exact ⟨program, tokens, parsed, listed, row, rows _ row _ rfl⟩

end Cpplet

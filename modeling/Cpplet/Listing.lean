import Cpplet.Cursor
import Cpplet.Outline.Basic

/-!
# Token listings

A listing shows the tokens of a source line by line: one row for each line on which a token
begins, with the number of the line and the labels of its tokens. The end of the file is listed
on its line too.
-/

namespace Cpplet.Listing

/-- The tokens that begin on one line. -/
structure Group where
  /-- The number of the line. -/
  line : Nat
  /-- The tokens, in order. -/
  tokens : List Token
deriving DecidableEq, Repr

/-- Put a token in front of groups: into the first if that is of its line, else alone. -/
def add (token : Token) : List Group → List Group
  | [] => [⟨token.location.line, [token]⟩]
  | group :: others =>
    if group.line = token.location.line then ⟨group.line, token :: group.tokens⟩ :: others
    else ⟨token.location.line, [token]⟩ :: group :: others

/-- Neighbouring tokens of one line together. -/
def group (tokens : List Token) : List Group := tokens.foldr add []

/-- Adding a token puts it before all tokens of the groups. -/
@[simp]
theorem flatMap_tokens_add (token : Token) (groups : List Group) :
    (add token groups).flatMap Group.tokens = token :: groups.flatMap Group.tokens := by
  cases groups with
  | nil => rfl
  | cons group others => by_cases same : group.line = token.location.line <;> simp [add, same]

/-- Grouping keeps every token in its order. -/
@[simp]
theorem flatMap_tokens_group (tokens : List Token) :
    (group tokens).flatMap Group.tokens = tokens := by
  induction tokens with
  | nil => rfl
  | cons token others ih => simp only [group, List.foldr_cons, flatMap_tokens_add] at ih ⊢; rw [ih]

/-- The groups of a source, or its first error. -/
def ofSource (source : String) : Except LexicalError (List Group) :=
  match tokenize source with
  | .ok tokens => .ok (group tokens)
  | .error error => .error error

/-- The row of a group. -/
def Group.text (group : Group) : String :=
  "/" ++ Decimal.natText group.line ++ ":  " ++
    String.intercalate ", " (group.tokens.map Token.label)

/-- All rows, each on a line of its own. -/
def render (groups : List Group) : String := Outline.asLines (groups.map Group.text)

end Cpplet.Listing

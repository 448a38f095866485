import Cpplet.Grammar.Stmt
import Cpplet.Tree.Program

/-!
# The grammar of programs

A program begins with includes, used namespaces and declarations in any order, then has at most
one entry point and then only declarations. The entry point is told from a declaration by the
three tokens `int main (`. Nothing may follow.
-/

namespace Cpplet.Grammar

open Cpplet.Parser hiding choose many
open ParserLike

variable {m : Type → Type} [ParserLike m]

/-- The deepest nesting that is followed. -/
def nestingLimit : Nat := 200

/-- The tokens `int main (`. -/
def entryAhead : List (Token → Bool) :=
  [isKind (.keyword .intWord), fun token => isKind .name token && token.name? = some "main",
    isKind (.mark .leftParen)]

/-- What may stand before the entry point. -/
inductive Opening where
  /-- An included header. -/
  | includes (header : Token)
  /-- A used namespace. -/
  | uses (space : Token)
  /-- A declaration list. -/
  | declares (steps : List Declaration)
deriving DecidableEq, Repr

namespace Opening

/-- The header that is included. -/
def header? : Opening → Option Token
  | .includes header => some header
  | _ => none

/-- The namespace that is used. -/
def space? : Opening → Option Token
  | .uses space => some space
  | _ => none

/-- The declarations. -/
def steps : Opening → List Declaration
  | .declares steps => steps
  | _ => []

end Opening

/-- A used namespace. -/
def usingLine : Parser Opening := do
  let _ ← word .usingWord
  let _ ← word .namespaceWord
  let space ← name
  let _ ← mark .semicolon
  return .uses space

/-- The text of one part of a header name. -/
def partText (token : Token) : String := token.name?.getD ""

/-- A dotted name as one name at the place of its first part. -/
def joinParts (first : Token) (others : List Token) : Token :=
  let text := others.foldl (fun header part => header ++ "." ++ partText part) (partText first)
  ⟨.name, some (.name text), first.location⟩

/-- A further part of a header name behind its point. -/
def nextPart : Parser Token := do
  let _ ← mark .dot
  name

/-- The name of a header, which may be dotted. -/
def headerName : Parser Token := do
  let first ← name
  let others ← manyAt (.mark .dot) nextPart
  return joinParts first others

/-- An included header. -/
def includeLine : Parser Opening := do
  let _ ← mark .hash
  let _ ← word .includeWord
  let _ ← mark .less
  let header ← headerName
  let _ ← mark .greater
  return .includes header

/-- Whether the lookahead begins something that stands before the entry point. -/
def atOpening (feed : Feed) : Bool :=
  feed.kind = .keyword .usingWord || feed.kind = .mark .hash ||
    (atDeclaration feed && !feed.startsWith entryAhead)

/-- Something that stands before the entry point. -/
def openingOf (expr : m Expr) : m Opening := do
  match ← kind with
  | .keyword .usingWord => usingLine
  | .mark .hash => includeLine
  | _ => return .declares (← declarations expr)

/-- The entry point. -/
def entryPointOf (expr : m Expr) (statement : m Stmt) : m EntryPoint := do
  let _ ← word .intWord
  let name ← name
  let _ ← mark .leftParen
  let _ ← mark .rightParen
  let (brace, body) ← braced expr statement
  return ⟨name, brace, body⟩

/-- The entry point where there is one. -/
def entryPointOf? (expr : m Expr) (statement : m Stmt) : m (Option EntryPoint) := do
  if ← ahead entryAhead then return some (← entryPointOf expr statement) else return none

/-- A program, whatever follows it. -/
def programOf (expr : m Expr) (statement : m Stmt) : m Program := do
  let openings ← many atOpening (openingOf expr)
  let entry ← entryPointOf? expr statement
  let after ← many atDeclaration (declarations expr)
  return {
    includes := openings.filterMap Opening.header?
    usings := openings.filterMap Opening.space?
    before := openings.flatMap Opening.steps
    entry
    after := after.flatten }

/-- A program up to the end of the file. -/
def wholeProgramOf (expr : m Expr) (statement : m Stmt) : m Program := do
  let program ← programOf expr statement
  if (← kind) = .eof then return program else unexpected (.kind .eof)

/-- Something that stands before the entry point, within a budget of levels. -/
def opening (budget : Nat) : Parser Opening := openingOf (expr budget)

/-- The entry point, within a budget of levels. -/
def entryPoint (budget : Nat) : Parser EntryPoint := entryPointOf (expr budget) (statement budget)

/-- The entry point where there is one, within a budget of levels. -/
def entryPoint? (budget : Nat) : Parser (Option EntryPoint) :=
  entryPointOf? (expr budget) (statement budget)

/-- A program, whatever follows it, within a budget of levels. -/
def program (budget : Nat) : Parser Program := programOf (expr budget) (statement budget)

/-- A program up to the end of the file, within a budget of levels. -/
def wholeProgram (budget : Nat) : Parser Program := wholeProgramOf (expr budget) (statement budget)

end Cpplet.Grammar

import Cpplet.SourceError
import Cpplet.Text.Lines

/-!
# Diagnostics

A diagnostic shows an error to a reader: the line of the source that it blames, a caret under the
blamed column, and the message with its place. The caret stands behind as many characters as the
blamed character does: a tab of the line stays a tab, so that the two lines keep step, and every
other character becomes a space. A place outside the source has an empty line.
-/

namespace Cpplet

/-- Which rules an error is about. -/
inductive Phase where
  /-- How characters form tokens. -/
  | lexical
  /-- How tokens form a program. -/
  | grammatical
deriving DecidableEq, Repr

/-- The word for a phase. -/
def Phase.describe : Phase → String
  | .lexical => "Lexical"
  | .grammatical => "Syntax"

/-- A message about a place in a source. -/
structure Diagnostic where
  /-- Which rules the message is about. -/
  phase : Phase
  /-- The wording. -/
  message : String
  /-- The place that is blamed. -/
  location : Location
deriving DecidableEq, Repr

namespace Diagnostic

open Decimal (natText)

/-- The message with its place. -/
def text (diagnostic : Diagnostic) : String :=
  diagnostic.phase.describe ++ " error at line " ++ natText diagnostic.location.line ++
    ", column " ++ natText diagnostic.location.column ++ ": " ++ diagnostic.message

/-- The line of a source that is blamed. -/
def blamedLine (source : List Char) (location : Location) : List Char :=
  (Text.lines source)[location.line - 1]?.getD []

/-- What stands before the caret: the blamed line up to the column, and spaces where it is too
short, with everything but tabs blanked. -/
def indent (line : List Char) (column : Nat) : List Char :=
  ((line ++ List.replicate (column - 1) ' ').take (column - 1)).map
    fun c => if c = '\t' then '\t' else ' '

/-- The blamed line, the caret and the message, each on a line. -/
def render (diagnostic : Diagnostic) (source : String) : String :=
  let line := blamedLine source.toList diagnostic.location
  String.ofList (line ++ '\n' :: indent line diagnostic.location.column ++ ['^', '\n']) ++
    diagnostic.text

end Diagnostic

/-- An error as a message about its place. -/
def SourceError.diagnostic (error : SourceError) : Diagnostic where
  phase := match error with
    | .lexical _ => .lexical
    | .grammatical _ => .grammatical
  message := error.message
  location := error.location

end Cpplet

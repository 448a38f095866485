import Cpplet.Cursor

/-!
# Errors of a source

A source fails in its characters or in its grammar. A grammatical error names what was expected
instead of the token found, or says that statements or expressions are nested too deeply; it
stands at the lookahead in both cases.
-/

namespace Cpplet

/-- What a place in the grammar expects. -/
inductive Expectation where
  /-- A token of one kind. -/
  | kind (wanted : Kind)
  /-- The name of a type. -/
  | type
  /-- An expression. -/
  | expression
  /-- A constant. -/
  | constant
  /-- An assignment operator. -/
  | assignment
deriving DecidableEq, Repr

/-- The wording of an expectation. -/
def Expectation.describe : Expectation → String
  | .kind wanted => wanted.describe
  | .type => "type specifier"
  | .expression => "expression"
  | .constant => "constant"
  | .assignment => "assignment operator"

/-- What can be nested. -/
inductive Nesting where
  /-- Statements within statements. -/
  | statement
  /-- Expressions within expressions. -/
  | expression
deriving DecidableEq, Repr

/-- The wording of what is nested. -/
def Nesting.describe : Nesting → String
  | .statement => "Statement"
  | .expression => "Expression"

/-- How a source breaks the grammar. -/
inductive Breach where
  /-- Another token stands where something was expected. -/
  | unexpected (expected : Expectation) (found : Token)
  /-- The nesting goes deeper than is followed. -/
  | tooDeep (nested : Nesting)
deriving DecidableEq, Repr

/-- The wording of a breach. -/
def Breach.message : Breach → String
  | .unexpected expected found =>
    "Expected " ++ expected.describe ++ " but found " ++ found.describe
  | .tooDeep nested => nested.describe ++ " nested too deeply"

/-- An error in the grammar of a source. -/
structure SyntaxError where
  /-- What is wrong. -/
  breach : Breach
  /-- The place of the lookahead. -/
  location : Location
deriving DecidableEq, Repr

/-- An error of a source. -/
inductive SourceError where
  /-- An error in its characters. -/
  | lexical (error : LexicalError)
  /-- An error in its grammar. -/
  | grammatical (error : SyntaxError)
deriving DecidableEq, Repr

namespace SourceError

/-- The place that is blamed. -/
def location : SourceError → Location
  | .lexical error => error.location
  | .grammatical error => error.location

/-- The wording without the place. -/
def message : SourceError → String
  | .lexical error => error.flaw.message
  | .grammatical error => error.breach.message

end SourceError

end Cpplet

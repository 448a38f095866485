import Cpplet.Tree.Stmt

/-!
# Programs

A program is what one source holds: the headers that it includes, the namespaces that it uses,
the variables declared before its entry point, the entry point itself unless it is missing, and
the variables declared behind it.
-/

namespace Cpplet

/-- The function that a program starts with. -/
structure EntryPoint where
  /-- The name of the function. -/
  name : Token
  /-- The brace that opens its body. -/
  brace : Token
  /-- The statements of its body. -/
  body : List Stmt

/-- A whole source. -/
structure Program where
  /-- Names of included headers; the parts of a dotted name are one token. -/
  includes : List Token
  /-- Names of used namespaces. -/
  usings : List Token
  /-- Declarations before the entry point. -/
  before : List Declaration
  /-- The entry point. -/
  entry : Option EntryPoint
  /-- Declarations behind the entry point. -/
  after : List Declaration

end Cpplet

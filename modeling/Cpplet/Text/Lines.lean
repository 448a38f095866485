/-!
# Lines of a text

A line feed ends a line and belongs to no line, and so does one carriage return right before
it. A text that ends in a line feed has no further, empty line, and the empty text has no line.
A carriage return anywhere else is a character of its line.
-/

namespace Cpplet.Text

/-- Put a character in front of the first line, which exists from then on. -/
def addToFirst (c : Char) : List (List Char) → List (List Char)
  | [] => [[c]]
  | line :: others => (c :: line) :: others

/-- The lines of a text, without what ends them. -/
def lines : List Char → List (List Char)
  | [] => []
  | '\n' :: rest => [] :: lines rest
  | '\r' :: '\n' :: rest => [] :: lines rest
  | c :: rest => addToFirst c (lines rest)

/-- The lines of a string, as strings. -/
def stringLines (text : String) : List String := (lines text.toList).map String.ofList

end Cpplet.Text

import Cpplet.Lexeme.Basic
import Cpplet.Text.Alphabetic
import Cpplet.Text.Numeric

/-!
# Words

A word begins with a letter or an underscore and goes on as far as there are letters, numerals
and underscores, in any script. It is a reserved word if it is spelled like one and a name
otherwise.
-/

namespace Cpplet.Lexeme

/-- The characters that begin a word. -/
def beginsWord (c : Char) : Bool := Text.isAlphabetic c || c = '_'

/-- The characters that a word goes on with. -/
def continuesWord (c : Char) : Bool := Text.isAlphabetic c || Text.isNumeric c || c = '_'

/-- The token that a word is. -/
def ofWord (word : List Char) : Lexeme :=
  match Keyword.ofSpelling? (String.ofList word) with
  | some keyword => fixed word (.keyword keyword)
  | none => ⟨word, .name, some (.name (String.ofList word))⟩

/-- The word at the front of a text. -/
def word (input : List Char) : Lexeme := ofWord (input.takeWhile continuesWord)

end Cpplet.Lexeme

import Cpplet.Lexeme.Word
import Cpplet.Lexeme.Number
import Cpplet.Lexeme.Quotation

/-!
# The lexeme at the front of a text

The first character decides which sort of lexeme is read: a letter or underscore begins a word, a
digit a number, a quote a constant of characters, and anything else has to be a mark.
-/

namespace Cpplet.Lexeme

/-- The longest mark at the front of a text. -/
def mark (c : Char) (rest : List Char) : Except Misfit Lexeme :=
  match Mark.front? (c :: rest) with
  | some symbol => .ok (fixed symbol.spelling.toList (.mark symbol))
  | none => .error ⟨.strayCharacter c, [], []⟩

/-- The lexeme at the front of a text, which begins with the character `c`. -/
def front (c : Char) (rest : List Char) : Except Misfit Lexeme :=
  if beginsWord c then .ok (word (c :: rest))
  else if isDigit c then number (c :: rest)
  else if c = '"' then string rest
  else if c = '\'' then char rest
  else mark c rest

end Cpplet.Lexeme

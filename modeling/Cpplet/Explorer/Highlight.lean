import Cpplet.Explorer.Theme
import Cpplet.Lexeme.Word
import Cpplet.Lexeme.Number
import Cpplet.Text.Blank

/-!
# Colouring source lines

A source line is coloured by itself, without regard to the lines before it, so a block comment
gets no colour. A line that begins with a number sign has one colour. Any other line is cut into
pieces: a line comment takes the rest of the line, a quotation runs through its closing quote or
to the end of the line, a word takes its points along, and every other character stands alone.
-/

namespace Cpplet.Explorer

open Screen (Style Span)

namespace Highlight

/-- What follows an opening quote, through the closing one. A backslash takes the character
behind it along. -/
def quotation (quote : Char) : List Char → List Char
  | '\\' :: c :: rest => '\\' :: c :: quotation quote rest
  | c :: rest => if c = quote then [c] else c :: quotation quote rest
  | [] => []

/-- The characters that a coloured word goes on with. -/
def continuesPiece (c : Char) : Bool := Lexeme.continuesWord c || c = '.'

/-- The style of a reserved word. -/
def keywordStyle (keyword : Keyword) : Style :=
  if keyword.isType || keyword = .constWord || keyword = .voidWord then .color Theme.typeName
  else if keyword = .trueWord || keyword = .falseWord then .color Theme.number
  else (Style.color Theme.keyword).emphasized

/-- The style of a word. -/
def wordStyle (word : List Char) : Style :=
  match Keyword.ofSpelling? (String.ofList word) with
  | some keyword => keywordStyle keyword
  | none => .color (if word.head?.any isDigit then Theme.number else Theme.text)

/-- The characters drawn like brackets. -/
def isBracket (c : Char) : Bool := ['\x7b', '\x7d', '(', ')'].contains c

/-- The piece at the front of a line that begins with a character. -/
def piece (c : Char) (rest : List Char) : Span :=
  if c = '/' && rest.head? = some '/' then ⟨c :: rest, .color Theme.comment⟩
  else if c = '"' || c = '\'' then ⟨c :: quotation c rest, .color Theme.string⟩
  else if Lexeme.continuesWord c then
    let word := c :: rest.takeWhile continuesPiece
    ⟨word, wordStyle word⟩
  else ⟨[c], .color (if isBracket c then Theme.primary else Theme.text)⟩

/-- The pieces of a line, at most as many as `rounds` is long. -/
def piecesWithin : List Char → List Char → List Span
  | _ :: rounds, c :: rest =>
    let first := piece c rest
    first :: piecesWithin rounds ((c :: rest).drop first.text.length)
  | _, _ => []

/-- The pieces of a line. Each takes a character at least, so the line is long enough to count
them. -/
def pieces (line : List Char) : List Span := piecesWithin line line

/-- The coloured spans of a line. -/
def line (text : List Char) : List Span :=
  if (text.dropWhile Text.isBlank).head? = some '#' then [⟨text, .color Theme.directive⟩]
  else pieces text

end Highlight

end Cpplet.Explorer

import Cpplet.Token.Basic

/-!
# Lexemes

A lexeme is the text of one token, read off the front of the characters that are left. Reading
knows nothing of lines and columns: a lexeme carries the characters it took, and a misfit carries
the characters up to the place it blames and up to the place where reading stopped. Whoever holds
the place of the first character finds all other places by walking over these texts.
-/

namespace Cpplet

/-- The text of one token and what it denotes. -/
structure Lexeme where
  /-- The characters taken. -/
  text : List Char
  /-- The lexical category. -/
  kind : Kind
  /-- The content, or the spelling where that is fixed. -/
  value : Option Value
deriving DecidableEq, Repr

/-- The lexeme of a kind whose spelling is fixed. -/
def Lexeme.fixed (text : List Char) (kind : Kind) : Lexeme :=
  ⟨text, kind, kind.spelling?.map .spelling⟩

/-- What is wrong with characters that are no token. -/
inductive Flaw where
  /-- The exponent mark of a number, here as far as it was read, has no digits behind it. -/
  | exponentWithoutDigits (number : List Char)
  /-- An integer constant lies above the largest integer of 64 bits. -/
  | integerTooLarge (digits : List Char)
  /-- A number with a point or an exponent, here as it was read, is no floating-point number. -/
  | invalidFloat (number : List Char)
  /-- A string constant reaches the end of its line or of the file. -/
  | unclosedString
  /-- A character constant reaches the end of its line or of the file. -/
  | unclosedChar
  /-- A character constant has nothing between its quotes. -/
  | emptyChar
  /-- A character constant goes on behind its one character. -/
  | missingQuote
  /-- The file ends behind a backslash. -/
  | escapeAtEnd
  /-- No escape has this letter. -/
  | unknownEscape (letter : Char)
  /-- No token begins with this character. -/
  | strayCharacter (c : Char)
  /-- A block comment reaches the end of the file. -/
  | unclosedComment
deriving DecidableEq, Repr

/-- The wording of a flaw. -/
def Flaw.message : Flaw → String
  | .exponentWithoutDigits number =>
    "Exponent has no digits in numeric literal '" ++ String.ofList number ++ "'"
  | .integerTooLarge digits => "Invalid integer literal: " ++ String.ofList digits
  | .invalidFloat number => "Invalid float literal: " ++ String.ofList number
  | .unclosedString => "Unterminated string literal"
  | .unclosedChar => "Unterminated character literal"
  | .emptyChar => "Empty character literal"
  | .missingQuote => "Expected closing quote in character literal"
  | .escapeAtEnd => "Unexpected end of file in escape sequence"
  | .unknownEscape letter => "Unknown escape sequence: \\" ++ String.ofList [letter]
  | .strayCharacter c => "Unexpected character: '" ++ String.ofList [c] ++ "'"
  | .unclosedComment => "Unterminated block comment"

/-- Characters that are no token. -/
structure Misfit where
  /-- What is wrong. -/
  flaw : Flaw
  /-- The characters before the place that is blamed. -/
  lead : List Char
  /-- The characters before the place where reading stopped. -/
  read : List Char
deriving DecidableEq, Repr

end Cpplet

import Cpplet.Lexeme.Basic

/-!
# String and character constants

Between quotes a character stands for itself, apart from the quote, the backslash and the line
feed; a backslash with one of eleven letters stands for the character that the letter names. A
string constant is a run of these up to a double quote, a character constant exactly one of them
between single quotes. `Run.of` is the longest run, and what follows it says how the constant
ends or what is wrong with it.
-/

namespace Cpplet

/-- The character that an escape with this letter stands for. -/
def unescape? : Char → Option Char
  | 'n' => some '\n'
  | 't' => some '\t'
  | 'r' => some '\r'
  | 'b' => some '\x08'
  | 'f' => some '\x0c'
  | 'v' => some '\x0b'
  | '0' => some '\x00'
  | '\\' => some '\\'
  | '\'' => some '\''
  | '"' => some '"'
  | '?' => some '?'
  | _ => none

/-- A run of characters and escapes. -/
structure Run where
  /-- The characters taken. -/
  text : List Char
  /-- The characters they stand for. -/
  denoted : List Char
deriving DecidableEq, Repr

namespace Run

/-- Put one character or escape in front of a run. -/
def add (written : List Char) (c : Char) (run : Run) : Run :=
  ⟨written ++ run.text, c :: run.denoted⟩

/-- The characters that do not stand for themselves in a string constant. -/
def isSpecial (c : Char) : Bool := c = '"' || c = '\\' || c = '\n'

/-- The longest run at the front of a text. -/
def of : List Char → Run
  | '\\' :: letter :: rest =>
    match unescape? letter with
    | some c => add ['\\', letter] c (of rest)
    | none => ⟨[], []⟩
  | c :: rest => if isSpecial c then ⟨[], []⟩ else add [c] c (of rest)
  | [] => ⟨[], []⟩

end Run

namespace Lexeme

/-- The string constant whose opening quote stands before the text. -/
def string (input : List Char) : Except Misfit Lexeme :=
  let run := Run.of input
  let lead := '"' :: run.text
  match input.drop run.text.length with
  | '"' :: _ => .ok ⟨lead ++ ['"'], .string, some (.string (String.ofList run.denoted))⟩
  | '\\' :: letter :: _ => .error ⟨.unknownEscape letter, lead, lead ++ ['\\']⟩
  | ['\\'] => .error ⟨.escapeAtEnd, lead, lead ++ ['\\']⟩
  | _ => .error ⟨.unclosedString, [], lead⟩

/-- The character constant whose opening quote and one character or escape are written and stand
for `c`, closed by what follows. -/
def closeChar (written : List Char) (c : Char) (rest : List Char) : Except Misfit Lexeme :=
  match rest with
  | '\'' :: _ => .ok ⟨written ++ ['\''], .char, some (.char c.toNat)⟩
  | _ => .error ⟨.missingQuote, written, written⟩

/-- The character constant whose opening quote stands before the text. -/
def char (input : List Char) : Except Misfit Lexeme :=
  match input with
  | [] => .error ⟨.unclosedChar, [], ['\'']⟩
  | '\n' :: _ => .error ⟨.unclosedChar, [], ['\'']⟩
  | '\'' :: _ => .error ⟨.emptyChar, [], ['\'']⟩
  | ['\\'] => .error ⟨.escapeAtEnd, ['\''], ['\'', '\\']⟩
  | '\\' :: letter :: rest =>
    match unescape? letter with
    | some c => closeChar ['\'', '\\', letter] c rest
    | none => .error ⟨.unknownEscape letter, ['\''], ['\'', '\\']⟩
  | c :: rest => closeChar ['\'', c] c rest

end Lexeme

end Cpplet

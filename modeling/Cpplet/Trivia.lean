import Cpplet.Lexeme.Basic
import Cpplet.Text.Blank

/-!
# What stands between tokens

Blanks and comments separate tokens and mean nothing else. A line comment runs through the line
feed that ends its line, or to the end of the file; a block comment runs through the first `*/`
behind its opening, and one without it is an error of the whole rest of the file.
-/

namespace Cpplet

namespace Trivia

/-- The text of a line comment behind its opening, with the line feed if there is one. -/
def lineComment : List Char → List Char
  | [] => []
  | c :: rest => if c = '\n' then [c] else c :: lineComment rest

/-- The text of a block comment behind its opening, with the closing if there is one. -/
def blockComment? : List Char → Option (List Char)
  | '*' :: '/' :: _ => some ['*', '/']
  | c :: rest => (blockComment? rest).map (c :: ·)
  | [] => none

/-- What stands at the front of a text. -/
inductive Piece where
  /-- A blank or a whole comment. -/
  | skipped (text : List Char)
  /-- A block comment without end. -/
  | unclosed
  /-- Neither: a token, or the end of the file. -/
  | none
deriving DecidableEq, Repr

/-- The blank or comment at the front of a text. -/
def Piece.of : List Char → Piece
  | '/' :: '/' :: rest => .skipped ('/' :: '/' :: lineComment rest)
  | '/' :: '*' :: rest =>
    match blockComment? rest with
    | some text => .skipped ('/' :: '*' :: text)
    | Option.none => .unclosed
  | c :: _ => if Text.isBlank c then .skipped [c] else .none
  | [] => .none

/-- Skip blanks and comments, at most as many as `rounds` is long. -/
def skipWithin (rounds : List Char) (input : List Char) : Except Misfit (List Char) :=
  match Piece.of input with
  | .none => .ok []
  | .unclosed => .error ⟨.unclosedComment, [], input⟩
  | .skipped text =>
    match rounds with
    | [] => .ok text
    | _ :: rounds =>
      match skipWithin rounds (input.drop text.length) with
      | .ok more => .ok (text ++ more)
      | .error misfit => .error ⟨misfit.flaw, text ++ misfit.lead, text ++ misfit.read⟩

/-- The blanks and comments at the front of a text. Each takes a character at least, so the text
is long enough to count them. -/
def skip (input : List Char) : Except Misfit (List Char) := skipWithin input input

end Trivia

end Cpplet

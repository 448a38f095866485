import Cpplet.Lexeme.Front
import Cpplet.Trivia

/-!
# Cursors

A cursor is a place in a source with the characters that are left. Reading the next token skips
blanks and comments, reads one lexeme and returns the cursor behind it; once nothing is left it
returns the end of the file without moving. A failed reading returns the cursor where it stopped,
so that reading can go on from there.
-/

namespace Cpplet

/-- An error in the characters of a source. -/
structure LexicalError where
  /-- What is wrong. -/
  flaw : Flaw
  /-- The place that is blamed. -/
  location : Location
deriving DecidableEq, Repr

/-- Read tokens one by one up to the end of the file, at most one more than `rounds` is long. -/
def drain {State : Type} (next : State → Except LexicalError Token × State) (rounds : List Char)
    (state : State) : Except LexicalError (List Token) × State :=
  match next state with
  | (.error error, stop) => (.error error, stop)
  | (.ok token, behind) =>
    if token.kind = .eof then (.ok [token], behind)
    else
      match rounds with
      | [] => (.ok [token], behind)
      | _ :: rounds =>
        match drain next rounds behind with
        | (.ok tokens, stop) => (.ok (token :: tokens), stop)
        | (.error error, stop) => (.error error, stop)

/-- A place in a source and the characters from there on. -/
structure Cursor where
  /-- The characters that are left. -/
  rest : List Char
  /-- The place of the first of them. -/
  location : Location
deriving DecidableEq, Repr

namespace Cursor

/-- The front of a source. -/
def ofSource (source : String) : Cursor := ⟨source.toList, .start⟩

/-- The cursor behind a text that stands at this one. -/
def past (cursor : Cursor) (text : List Char) : Cursor :=
  ⟨cursor.rest.drop text.length, cursor.location.past text⟩

/-- Behind two texts is behind the second from behind the first. -/
@[simp]
theorem past_append (cursor : Cursor) (first second : List Char) :
    cursor.past (first ++ second) = (cursor.past first).past second := by
  simp [past, List.drop_drop]

/-- What reading a token gives: the token or an error, and the cursor where reading stopped. -/
abbrev Reading := Except LexicalError Token × Cursor

/-- A misfit at a cursor, as an error of the source. -/
def misread (cursor : Cursor) (misfit : Misfit) : Reading :=
  (.error ⟨misfit.flaw, cursor.location.past misfit.lead⟩, cursor.past misfit.read)

/-- Read the token at a cursor, before which nothing is to be skipped. -/
def token (cursor : Cursor) : Reading :=
  match cursor.rest with
  | [] => (.ok (.eof cursor.location), cursor)
  | c :: rest =>
    match Lexeme.front c rest with
    | .ok lexeme => (.ok ⟨lexeme.kind, lexeme.value, cursor.location⟩, cursor.past lexeme.text)
    | .error misfit => cursor.misread misfit

/-- Read the next token. -/
def next (cursor : Cursor) : Reading :=
  match Trivia.skip cursor.rest with
  | .ok skipped => (cursor.past skipped).token
  | .error misfit => cursor.misread misfit

/-- Read all tokens, the end of the file included. Each takes a character at least, so the
characters that are left are enough to count them. -/
def tokens (cursor : Cursor) : Except LexicalError (List Token) × Cursor :=
  drain next cursor.rest cursor

end Cursor

/-- All tokens of a source, ending with the end of the file, or its first error. -/
def tokenize (source : String) : Except LexicalError (List Token) :=
  (Cursor.ofSource source).tokens.1

end Cpplet

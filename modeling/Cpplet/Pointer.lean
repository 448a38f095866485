import Cpplet.Cursor

/-!
# Pointers

A pointer is a place in a source as it is kept while the source is read: the position, the line
and the column there, and the character there, which is kept so that it need not be looked up.
Four fields say one thing, and only a step over one character moves them; at the end of the source
there is no step. A pointer never goes farther than that, whatever it is told to step over.

What is read is decided on the characters from the pointer on, and then stepped over, as far as
reading went. A place that is blamed is one that the pointer came by.
-/

namespace Cpplet

/-- A place in a source, with the character there. -/
structure Pointer where
  /-- How many characters stand before it. -/
  position : Nat
  /-- The line of the place. -/
  line : Nat
  /-- The column of the place. -/
  column : Nat
  /-- The character at the place, if the source has not ended. -/
  current : Option Char
deriving DecidableEq, Repr

namespace Pointer

/-- The front of a source. -/
def start (source : List Char) : Pointer := ⟨0, 1, 1, source.head?⟩

/-- Line and column of a pointer. -/
def location (pointer : Pointer) : Location := ⟨pointer.line, pointer.column⟩

/-- Step over the character at a pointer, if there is one. -/
def advance (source : List Char) (pointer : Pointer) : Pointer :=
  match pointer.current with
  | none => pointer
  | some c =>
    { position := pointer.position + 1
      line := if c = '\n' then pointer.line + 1 else pointer.line
      column := if c = '\n' then 1 else pointer.column + 1
      current := source[pointer.position + 1]? }

/-- Make as many steps as a text has characters. -/
def stepOver (source : List Char) (pointer : Pointer) (text : List Char) : Pointer :=
  text.foldl (fun pointer _ => pointer.advance source) pointer

/-- The character at a pointer and those behind it. -/
def rest (source : List Char) (pointer : Pointer) : List Char :=
  match pointer.current with
  | none => []
  | some c => c :: source.drop (pointer.position + 1)

/-- What reading a token gives: the token or an error, and the pointer where reading stopped. -/
abbrev Reading := Except LexicalError Token × Pointer

/-- A misfit at a pointer, as an error of the source. -/
def misread (source : List Char) (pointer : Pointer) (misfit : Misfit) : Reading :=
  (.error ⟨misfit.flaw, (pointer.stepOver source misfit.lead).location⟩,
    pointer.stepOver source misfit.read)

/-- Read the token at a pointer, before which nothing is to be skipped. -/
def token (source : List Char) (pointer : Pointer) : Reading :=
  match pointer.current with
  | none => (.ok (.eof pointer.location), pointer)
  | some c =>
    match Lexeme.front c (source.drop (pointer.position + 1)) with
    | .ok lexeme =>
      (.ok ⟨lexeme.kind, lexeme.value, pointer.location⟩, pointer.stepOver source lexeme.text)
    | .error misfit => pointer.misread source misfit

/-- Read the next token. -/
def next (source : List Char) (pointer : Pointer) : Reading :=
  match Trivia.skip (pointer.rest source) with
  | .ok skipped => (pointer.stepOver source skipped).token source
  | .error misfit => pointer.misread source misfit

/-- Read all tokens, the end of the file included. -/
def tokens (source : List Char) (pointer : Pointer) :
    Except LexicalError (List Token) × Pointer :=
  drain (next source) (pointer.rest source) pointer

end Pointer

end Cpplet

import Cpplet.Pointer

/-!
# Readers

A reader works through a source by commands: read a token, read all tokens, keep the place, and
go back to a place kept before. Kept places are numbered from zero and never forgotten.
-/

namespace Cpplet

/-- A source that is being read, with the places kept so far. -/
structure Reader where
  /-- The characters of the source. -/
  source : List Char
  /-- The place where reading goes on. -/
  cursor : Pointer
  /-- The places kept, in the order in which they were kept. -/
  kept : List Pointer

namespace Reader

/-- A reader at the front of a source. -/
def ofSource (source : String) : Reader := ⟨source.toList, .start source.toList, []⟩

/-- What a reader can be told to do. -/
inductive Command where
  /-- Read one token. -/
  | next
  /-- Read all tokens up to the end of the file. -/
  | tokens
  /-- Keep the place. -/
  | keep
  /-- Go back to the place kept under a number. -/
  | goBack (number : Nat)
deriving DecidableEq, Repr

/-- What a reader answers. -/
inductive Answer where
  /-- The token read, or an error. -/
  | token (result : Except LexicalError Token)
  /-- The tokens read, or an error. -/
  | tokens (result : Except LexicalError (List Token))
  /-- The number under which the place is kept. -/
  | kept (number : Nat)
  /-- The place gone back to. -/
  | backAt (location : Location)
  /-- No place is kept under that number. -/
  | neverKept

/-- Obey a command. -/
def obey (reader : Reader) : Command → Answer × Reader
  | .next =>
    let (result, stop) := reader.cursor.next reader.source
    (.token result, { reader with cursor := stop })
  | .tokens =>
    let (result, stop) := reader.cursor.tokens reader.source
    (.tokens result, { reader with cursor := stop })
  | .keep => (.kept reader.kept.length, { reader with kept := reader.kept ++ [reader.cursor] })
  | .goBack number =>
    match reader.kept[number]? with
    | some cursor => (.backAt cursor.location, { reader with cursor })
    | none => (.neverKept, reader)

end Reader

end Cpplet

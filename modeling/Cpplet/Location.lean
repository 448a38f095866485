/-!
# Places in a source text

Lines and columns count from one and columns count characters. A line feed ends its line, so
the character after it is the first of the next line; every other character, a carriage return
or a tab included, moves one column to the right. The place of a character depends only on the
text before it (`Location.past`), and walking over two texts is walking over the first and then
over the second (`past_append`).
-/

namespace Cpplet

/-- A line and a column, both counted from one. -/
structure Location where
  /-- Line number. -/
  line : Nat
  /-- Number of the character in its line. -/
  column : Nat
deriving DecidableEq, Repr, Inhabited

namespace Location

/-- The place of the first character of a text. -/
def start : Location := ⟨1, 1⟩

/-- The place behind one character. -/
def after (location : Location) (c : Char) : Location :=
  if c = '\n' then ⟨location.line + 1, 1⟩ else ⟨location.line, location.column + 1⟩

/-- The place behind a text. -/
def past (location : Location) (text : List Char) : Location := text.foldl after location

/-- The empty text moves nothing. -/
@[simp]
theorem past_nil (location : Location) : location.past [] = location := rfl

/-- The first character is passed first. -/
@[simp]
theorem past_cons (location : Location) (c : Char) (text : List Char) :
    location.past (c :: text) = (location.after c).past text := rfl

/-- Two texts are passed one after the other. -/
@[simp]
theorem past_append (location : Location) (first second : List Char) :
    location.past (first ++ second) = (location.past first).past second :=
  List.foldl_append

end Location

end Cpplet

import Cpplet.Token.Basic

/-!
# Outlines

An outline is a tree of labelled nodes, some of which point to a place in a source. Flattened, it
is a list of rows in the order of the nodes, each with its depth; as text a row is indented by
one bar for each level and followed by its place.
-/

namespace Cpplet

/-- A labelled node with the nodes below it. -/
inductive Outline where
  /-- A label, the place it points to and the nodes below. -/
  | node (label : String) (location : Option Location) (children : List Outline)

namespace Outline

/-- One row of a flattened outline. -/
structure Row where
  /-- How many nodes are above. -/
  depth : Nat
  /-- The label of the node. -/
  label : String
  /-- The place that the node points to. -/
  location : Option Location
deriving DecidableEq, Repr

mutual

/-- The rows of an outline whose root is at a depth. -/
def rowsAt (depth : Nat) : Outline → List Row
  | .node label location children => ⟨depth, label, location⟩ :: rowsOfAll (depth + 1) children

/-- The rows of outlines whose roots are at a depth. -/
def rowsOfAll (depth : Nat) : List Outline → List Row
  | [] => []
  | outline :: others => rowsAt depth outline ++ rowsOfAll depth others

end

/-- The rows of an outline. -/
def rows (outline : Outline) : List Row := rowsAt 0 outline

/-- A label row with one node below it. -/
def slot (label : String) (content : Outline) : Outline := .node label none [content]

namespace Row

open Decimal (natText)

/-- The label behind a bar for each level. -/
def indented (row : Row) : String := String.join (List.replicate row.depth " | ") ++ row.label

/-- The row with its place. -/
def text (row : Row) : String :=
  match row.location with
  | some location =>
    row.indented ++ "  (" ++ natText location.line ++ ":" ++ natText location.column ++ ")"
  | none => row.indented

end Row

/-- Texts each on a line of its own. -/
def asLines (texts : List String) : String := String.join (texts.map (· ++ "\n"))

/-- The whole outline as text. -/
def render (outline : Outline) : String := asLines (outline.rows.map Row.text)

end Outline

end Cpplet

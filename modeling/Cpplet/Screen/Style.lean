/-!
# Styled cells

A screen is made of cells, each a symbol with a style. A symbol is one character, except that a
carriage return and the line feed behind it are one symbol; a line feed alone is none and takes no
cell. A style says nothing about a colour that it leaves open, so it can be laid over another: the
colours that it names win, the others stay, and emphasis only adds up.
-/

namespace Cpplet.Screen

/-- Colours. -/
inductive Color where
  /-- A mixture of red, green and blue. -/
  | rgb (red green blue : UInt8)
  /-- The terminal's black. -/
  | black
deriving DecidableEq, Repr

/-- Colours and emphasis; a missing colour is the one below. -/
structure Style where
  /-- The colour of the character. -/
  foreground : Option Color
  /-- The colour behind the character. -/
  background : Option Color
  /-- Whether the character is bold. -/
  bold : Bool
  /-- Whether the two colours are exchanged. -/
  reversed : Bool
deriving DecidableEq, Repr

namespace Style

/-- No colour and no emphasis. -/
def plain : Style := ⟨none, none, false, false⟩

/-- A colour for the character. -/
def color (foreground : Color) : Style := { plain with foreground := some foreground }

/-- A colour behind the character. -/
def behind (background : Color) : Style := { plain with background := some background }

/-- Both colours. -/
def colors (foreground background : Color) : Style :=
  { plain with foreground := some foreground, background := some background }

/-- The style in bold. -/
def emphasized (style : Style) : Style := { style with bold := true }

/-- One style laid over another. -/
def atop (upper lower : Style) : Style where
  foreground := upper.foreground.or lower.foreground
  background := upper.background.or lower.background
  bold := upper.bold || lower.bold
  reversed := upper.reversed || lower.reversed

end Style

/-- One cell of a screen. -/
structure Cell where
  /-- The symbol shown. -/
  symbol : List Char
  /-- Its style. -/
  style : Style
deriving DecidableEq, Repr

namespace Cell

/-- A space without colour. -/
def blank : Cell := ⟨[' '], .plain⟩

/-- The cell with a style laid over it. -/
def restyle (upper : Style) (cell : Cell) : Cell := ⟨cell.symbol, upper.atop cell.style⟩

end Cell

/-- The symbols of a text, in order, each of which takes one cell. It is taken on trust that ratatui
puts one character into one cell, which holds of characters that are one cell wide and combine with
no other; and that it drops a line feed, unless a carriage return stands in front of it. -/
def symbols : List Char → List (List Char)
  | '\r' :: '\n' :: rest => ['\r', '\n'] :: symbols rest
  | '\n' :: rest => symbols rest
  | c :: rest => [c] :: symbols rest
  | [] => []

/-- How many line feeds of a text are no symbols. -/
def lostFeeds : List Char → Nat
  | '\r' :: '\n' :: rest => lostFeeds rest
  | '\n' :: rest => lostFeeds rest + 1
  | _ :: rest => lostFeeds rest
  | [] => 0

/-- Text of one style. -/
structure Span where
  /-- The characters. -/
  text : List Char
  /-- Their style. -/
  style : Style
deriving DecidableEq, Repr

namespace Span

/-- One cell for each symbol. -/
def cells (span : Span) : List Cell := (symbols span.text).map fun symbol => ⟨symbol, span.style⟩

/-- The cells of a line of spans. -/
def lineCells (spans : List Span) : List Cell := spans.flatMap cells

/-- The cells of a span in a list. There a lost line feed leaves a blank cell behind the span. -/
def listCells (span : Span) : List Cell :=
  span.cells ++ List.replicate (lostFeeds span.text) Cell.blank

end Span

end Cpplet.Screen

import Cpplet.Explorer.SourcePane
import Cpplet.Explorer.OutlinePane
import Cpplet.Explorer.StatusBar
import Cpplet.Outline.Program
import Cpplet.Session

/-!
# The explorer

The explorer shows a source next to a list of what it consists of: the nodes of its syntax tree,
or its tokens. Each of the two lists keeps its own selection. Moving the selection makes the
source follow it, and scrolling the source by hand ends that until the selection moves again or
the list is exchanged. Keys go to the pane that has the focus; drawing settles how far the panes
are scrolled.
-/

namespace Cpplet

open Explorer Screen

namespace Explorer

/-- The lists that can be shown. -/
inductive View where
  /-- The syntax tree. -/
  | tree
  /-- The tokens. -/
  | tokens
deriving DecidableEq, Repr

namespace View

/-- The other list. -/
def other : View → View
  | .tree => .tokens
  | .tokens => .tree

/-- The title of the pane. -/
def title : View → String
  | .tree => "Syntax Tree"
  | .tokens => "Tokens"

/-- The badge in the status bar. -/
def badge : View → String
  | .tree => "TREE"
  | .tokens => "TOKENS"

/-- The message when the list is shown. -/
def announcement : View → String
  | .tree => "Showing syntax tree"
  | .tokens => "Showing tokens"

end View

/-- The panes that can have the focus. -/
inductive Focus where
  /-- The source pane. -/
  | source
  /-- The outline pane. -/
  | outline
deriving DecidableEq, Repr

/-- The other pane. -/
def Focus.other : Focus → Focus
  | .source => .outline
  | .outline => .source

/-- Keys. -/
inductive Key where
  /-- A key that writes a character. -/
  | char (c : Char)
  /-- Arrow up. -/
  | up
  /-- Arrow down. -/
  | down
  /-- Arrow to the left. -/
  | left
  /-- Arrow to the right. -/
  | right
  /-- One page up. -/
  | pageUp
  /-- One page down. -/
  | pageDown
  /-- To the beginning. -/
  | home
  /-- To the end. -/
  | finish
  /-- The tabulator. -/
  | tab
  /-- The tabulator backwards. -/
  | backTab
  /-- Enter. -/
  | enter
  /-- Escape. -/
  | escape
deriving DecidableEq, Repr

/-- How many rows a page has. -/
def pageRows : Nat := 10

/-- A way up or down. -/
inductive Move where
  /-- Rows up, no further than the first. -/
  | up (rows : Nat)
  /-- Rows down. -/
  | down (rows : Nat)
deriving DecidableEq, Repr

/-- Where a move leads. -/
def Move.apply : Move → Nat → Nat
  | .up rows, row => row - rows
  | .down rows, row => row + rows

end Explorer

/-- The state of the explorer. -/
structure Explorer where
  /-- The source that is explored. -/
  source : List Char
  /-- The entries of the syntax tree. -/
  treeEntries : List Entry
  /-- The entries of the tokens. -/
  tokenEntries : List Entry
  /-- The list that is shown. -/
  view : View
  /-- The pane that takes the keys. -/
  focus : Focus
  /-- The state of the tree list. -/
  treeState : ListState
  /-- The state of the token list. -/
  tokenState : ListState
  /-- How far the source is scrolled. -/
  scroll : Scroll
  /-- Whether the explorer has been left. -/
  quit : Bool
  /-- The message in the status bar. -/
  status : String

namespace Explorer

/-- The state of a list that has not been shown yet. -/
def freshList (entries : List Entry) : ListState := ⟨if entries.isEmpty then none else some 0, 0⟩

/-- Explore a source by its syntax tree and its tokens. -/
def new (source : String) (program : Program) (tokens : List Token) : Explorer :=
  let treeEntries := program.outline.rows.map Entry.ofRow
  let tokenEntries := tokens.map Entry.ofToken
  { source := source.toList
    treeEntries
    tokenEntries
    view := .tree
    focus := .outline
    treeState := freshList treeEntries
    tokenState := freshList tokenEntries
    scroll := ⟨0, true⟩
    quit := false
    status := "Ready!" }

/-- Explore a source that can be parsed. -/
def ofSource (source : String) : Except SourceError Explorer :=
  match parse source with
  | .error error => .error error
  | .ok program =>
    match tokenize source with
    | .error error => .error (.lexical error)
    | .ok tokens => .ok (new source program tokens)

variable (explorer : Explorer)

/-- The entries of the list that is shown. -/
def entries : List Entry :=
  match explorer.view with
  | .tree => explorer.treeEntries
  | .tokens => explorer.tokenEntries

/-- The state of the list that is shown. -/
def listState : ListState :=
  match explorer.view with
  | .tree => explorer.treeState
  | .tokens => explorer.tokenState

/-- The explorer with another state of the list that is shown. -/
def setListState (state : ListState) : Explorer :=
  match explorer.view with
  | .tree => { explorer with treeState := state }
  | .tokens => { explorer with tokenState := state }

/-- The place that the selected entry points to. -/
def selectedLocation : Option Location :=
  explorer.listState.selected.bind fun index => explorer.entries[index]?.bind Entry.location

/-- The message for a selected entry. -/
def selectionMessage : Option Location → String
  | some location =>
    "Line " ++ Decimal.natText location.line ++ ", column " ++ Decimal.natText location.column
  | none => "No source position"

/-- Select an entry, the last one if the number is too large. -/
def select (index : Nat) : Explorer :=
  let count := explorer.entries.length
  if count = 0 then explorer
  else
    let moved :=
      explorer.setListState { explorer.listState with selected := some (min index (count - 1)) }
    { moved with
      scroll := { moved.scroll with follow := true }
      status := selectionMessage moved.selectedLocation }

/-- Move the selection, or scroll the source, whichever has the focus. -/
def move (move : Move) : Explorer :=
  match explorer.focus with
  | .outline => explorer.select (move.apply (explorer.listState.selected.getD 0))
  | .source => { explorer with scroll := ⟨move.apply explorer.scroll.offset, false⟩ }

/-- Show the other list. -/
def exchangeView : Explorer :=
  let view := explorer.view.other
  { explorer with
    view
    scroll := { explorer.scroll with follow := true }
    status := view.announcement }

/-- Press a key. -/
def press : Key → Explorer
  | .char 'q' | .char 'Q' | .escape => { explorer with quit := true }
  | .tab => { explorer with focus := explorer.focus.other }
  | .char 't' => explorer.exchangeView
  | .up | .char 'k' => explorer.move (.up 1)
  | .down | .char 'j' => explorer.move (.down 1)
  | .pageUp => explorer.move (.up pageRows)
  | .pageDown => explorer.move (.down pageRows)
  | .home => explorer.select 0
  | .finish => explorer.select (explorer.entries.length - 1)
  | _ => explorer

/-- How many columns the source pane has: a little more than half, rounded. That 55 and 45 parts of
a hundred come to this is taken on trust of ratatui's layout. -/
def sourceWidth (width : Nat) : Nat := (55 * width + 50) / 100

/-- Draw the explorer: the panes side by side and the status bar in the last row. -/
def draw (size : Size) : Picture × Explorer :=
  let left : Size := ⟨sourceWidth size.width, size.height - 1⟩
  let right : Size := ⟨size.width - left.width, size.height - 1⟩
  let bar : Size := ⟨size.width, min size.height 1⟩
  let (sourceRows, scroll) :=
    SourcePane.draw left explorer.source explorer.selectedLocation
      (explorer.focus = .source) explorer.scroll
  let (outlineRows, state) :=
    OutlinePane.draw right explorer.view.title explorer.entries (explorer.focus = .outline)
      explorer.listState
  let drawn := { explorer.setListState state with scroll }
  let barRows :=
    StatusBar.draw bar drawn.status drawn.view.badge drawn.listState.selected
      drawn.entries.length
  (beside sourceRows outlineRows ++ barRows, drawn)

end Explorer

end Cpplet

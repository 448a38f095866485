import Cpplet.Reader
import Cpplet.Explorer.State
import Cpplet.Main
import Cpplet.Proofs.Feeds
import Cpplet.Proofs.Lexing
import Cpplet.Proofs.Languages
import Cpplet.Proofs.Writing
import Cpplet.Proofs.Expressions
import Cpplet.Proofs.Undoing
import Cpplet.Proofs.Derivation
import Cpplet.Proofs.Programs
import Cpplet.Proofs.Agreement
import Cpplet.Proofs.Recognition
import Cpplet.Proofs.Completeness
import Cpplet.Proofs.Likeness
import Cpplet.Proofs.Following
import Cpplet.Proofs.Acceptance
import Cpplet.Proofs.Blame
import Cpplet.Proofs.Layout
import Cpplet.Proofs.Counting
import Cpplet.Proofs.Depth
import Cpplet.Proofs.Rounding
import Cpplet.Proofs.Shortest
import Cpplet.Proofs.Amounts
import Cpplet.Proofs.Lexemes
import Cpplet.Proofs.Scanning
import Cpplet.Proofs.Printing
import Cpplet.Proofs.Cursors
import Cpplet.Proofs.Resuming
import Cpplet.Proofs.Carets
import Cpplet.Proofs.Shapes
import Cpplet.Proofs.Nodes
import Cpplet.Proofs.Pointing
import Cpplet.Proofs.Forests
import Cpplet.Proofs.Rereading
import Cpplet.Proofs.Heights
import Cpplet.Proofs.Exploring
import Cpplet.Proofs.Pictures
import Cpplet.Proofs.Spotlight
import Cpplet.Proofs.Parting
import Cpplet.Proofs.Numerals
import Cpplet.Proofs.Quotations
import Cpplet.Proofs.Places
import Cpplet.Proofs.Pointers
import Cpplet.Proofs.Histories
import Cpplet.Proofs.Panes
import Cpplet.Proofs.Listings
import Cpplet.Proofs.Messages
import Cpplet.Proofs.Fencing
import Cpplet.Proofs.Echoing
import Cpplet.Proofs.Calling
import Cpplet.Proofs.Ending

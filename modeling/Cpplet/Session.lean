import Cpplet.Grammar.Program

/-!
# Parsing a source

`parse` reads a source as one program. A session reads the same source again and again, each time
from where the time before stopped: behind an error in the grammar that is the token that was
blamed, and behind an error in the characters it is the token before them, followed by what can
be read behind the place where reading stopped.
-/

namespace Cpplet

/-- Parse what a feed holds, within a budget of levels. -/
def parseFeed (budget : Nat) (feed : Feed) : Except SourceError Program :=
  match Grammar.wholeProgram budget feed with
  | .accepted program _ => .ok program
  | .rejected error _ => .error error

/-- Parse a source, within a budget of levels. -/
def parseWithin (budget : Nat) (source : String) : Except SourceError Program :=
  match Feed.ofCursor (.ofSource source) with
  | .ok feed => parseFeed budget feed
  | .error fault => .error (.lexical fault.error)

/-- Parse a source. -/
def parse (source : String) : Except SourceError Program :=
  parseWithin Grammar.nestingLimit source

/-- A source that is parsed repeatedly. -/
structure Session where
  /-- What is left to parse. -/
  feed : Feed

namespace Session

/-- A session over a source, unless its first token cannot be read. -/
def ofSource (source : String) : Except SourceError Session :=
  match Feed.ofCursor (.ofSource source) with
  | .ok feed => .ok ⟨feed⟩
  | .error fault => .error (.lexical fault.error)

/-- The result of parsing, and the session behind it. -/
def ofOutcome : Outcome Program → Except SourceError Program × Session
  | .accepted program rest => (.ok program, ⟨rest⟩)
  | .rejected (.grammatical error) stop => (.error (.grammatical error), ⟨stop⟩)
  | .rejected (.lexical error) stop => (.error (.lexical error), ⟨stop.pastFault⟩)

/-- Parse once more. -/
def parse (session : Session) : Except SourceError Program × Session :=
  ofOutcome (Grammar.wholeProgram Grammar.nestingLimit session.feed)

end Session

end Cpplet

import Cpplet.Cursor

/-!
# Feeds of tokens

A feed is what a parser sees of a source: the lookahead token and what comes behind it. Behind
the lookahead there is either another feed or a lexical fault, which the parser meets only when
it moves past the lookahead; the end of the file is followed by itself. So every feed has a
lookahead, and a fault that is never reached does no harm.
-/

namespace Cpplet

/-- A lexical error with the cursor where reading stopped. -/
structure Fault where
  /-- The error. -/
  error : LexicalError
  /-- Where reading stopped. -/
  stop : Cursor
deriving DecidableEq, Repr

/-- A lookahead token and what comes behind it. -/
inductive Feed where
  /-- Only the end of the file is left. -/
  | eof (location : Location)
  /-- Behind the lookahead the source cannot be read. -/
  | last (token : Token) (fault : Fault)
  /-- Behind the lookahead there are more tokens. -/
  | more (token : Token) (rest : Feed)
deriving DecidableEq, Repr

namespace Feed

/-- The feed from a cursor on, over at most one more token than `rounds` is long. -/
def within (rounds : List Char) (cursor : Cursor) : Except Fault Feed :=
  match cursor.next with
  | (.error error, stop) => .error ⟨error, stop⟩
  | (.ok token, behind) =>
    if token.kind = .eof then .ok (.eof token.location)
    else
      match rounds with
      | [] => .ok (.more token (.eof behind.location))
      | _ :: rounds =>
        match within rounds behind with
        | .ok rest => .ok (.more token rest)
        | .error fault => .ok (.last token fault)

/-- The feed from a cursor on, unless the first token cannot be read. -/
def ofCursor (cursor : Cursor) : Except Fault Feed := within cursor.rest cursor

/-- The lookahead. -/
def current : Feed → Token
  | .eof location => .eof location
  | .last token _ => token
  | .more token _ => token

/-- The kind of the lookahead. -/
def kind (feed : Feed) : Kind := feed.current.kind

/-- What comes behind the lookahead. -/
def next : Feed → Except Fault Feed
  | .eof location => .ok (.eof location)
  | .last _ fault => .error fault
  | .more _ rest => .ok rest

/-- Whether the tokens from the lookahead on pass a sequence of tests. A fault before the last
tested token passes none. -/
def startsWith (feed : Feed) : List (Token → Bool) → Bool
  | [] => true
  | [test] => test feed.current
  | test :: tests =>
    test feed.current &&
      match feed.next with
      | .ok rest => rest.startsWith tests
      | .error _ => false

/-- The feed after the fault behind the lookahead has been met: the lookahead stays, and behind
it reading goes on where it stopped. -/
def pastFault : Feed → Feed
  | .last token fault =>
    match ofCursor fault.stop with
    | .ok rest => .more token rest
    | .error later => .last token later
  | feed => feed

end Feed

end Cpplet

import Cpplet.Feed

/-!
# Feeds and the tokens in front of them

A parser takes tokens off the front of a feed, so what it did is told by the tokens between two
feeds: `tokens ++ rest` is the feed that has these tokens in front of another. The size of a feed
is the number of tokens that can be passed in it, and a feed is proper if the end of the file
stands nowhere but at its end.
-/

namespace Cpplet.Feed

/-- A feed with tokens in front of it. -/
def lead : List Token → Feed → Feed
  | [], feed => feed
  | token :: tokens, feed => .more token (lead tokens feed)

instance : HAppend (List Token) Feed Feed := ⟨lead⟩

/-- No tokens in front change nothing. -/
@[simp]
theorem nil_append (feed : Feed) : ([] : List Token) ++ feed = feed := rfl

/-- The first token in front is the lookahead. -/
@[simp]
theorem cons_append (token : Token) (tokens : List Token) (feed : Feed) :
    (token :: tokens) ++ feed = .more token (tokens ++ feed) := rfl

/-- Tokens are put in front one list after the other. -/
@[simp]
theorem append_append (first second : List Token) (feed : Feed) :
    (first ++ second) ++ feed = first ++ (second ++ feed) := by
  induction first with
  | nil => rfl
  | cons token first ih => rw [List.cons_append, cons_append, ih, cons_append]

/-- How many tokens can be passed. -/
def size : Feed → Nat
  | .eof _ => 0
  | .last _ _ => 0
  | .more _ rest => rest.size + 1

/-- Tokens in front add to the size. -/
@[simp]
theorem size_append (tokens : List Token) (feed : Feed) :
    (tokens ++ feed).size = tokens.length + feed.size := by
  induction tokens with
  | nil => simp
  | cons token tokens ih =>
    rw [cons_append, size, ih, List.length_cons]
    omega

/-- A feed of some size has a token in front. -/
theorem eq_more_of_size_pos {feed : Feed} (some : 0 < feed.size) :
    ∃ token rest, feed = .more token rest := by
  cases feed with
  | eof location => exact absurd some (Nat.lt_irrefl 0)
  | last token fault => exact absurd some (Nat.lt_irrefl 0)
  | more token rest => exact ⟨token, rest, rfl⟩

/-- The tokens that can be read, with the end of the file where it is reached. -/
def tokens : Feed → List Token
  | .eof location => [.eof location]
  | .last token _ => [token]
  | .more token rest => token :: rest.tokens

/-- Tokens in front are read first. -/
@[simp]
theorem tokens_append (front : List Token) (feed : Feed) :
    (front ++ feed).tokens = front ++ feed.tokens := by
  induction front with
  | nil => rfl
  | cons token front ih => rw [cons_append, tokens, ih, List.cons_append]

/-- Feeds that end with their files are the same only if their tokens are. -/
theorem append_eof_inj {first second : List Token} {left right : Location}
    (same : first ++ Feed.eof left = second ++ Feed.eof right) : first = second := by
  have listed := congrArg tokens same
  rw [tokens_append, tokens_append] at listed
  exact List.append_inj_left' listed rfl

/-- The lookahead is read first. -/
theorem tokens_eq_current_cons (feed : Feed) : ∃ behind, feed.tokens = feed.current :: behind := by
  cases feed with
  | eof location => exact ⟨[], rfl⟩
  | last token fault => exact ⟨[], rfl⟩
  | more token rest => exact ⟨rest.tokens, rfl⟩

/-- The lookahead behind a token in front is that token. -/
@[simp]
theorem current_more (token : Token) (rest : Feed) : (more token rest).current = token := rfl

/-- The kind of the lookahead is that of the token in front. -/
@[simp]
theorem kind_more (token : Token) (rest : Feed) : (more token rest).kind = token.kind := rfl

/-- At the end of the file the lookahead is the end of the file. -/
@[simp]
theorem kind_eof (location : Location) : (eof location).kind = .eof := rfl

/-- Behind the token in front comes the rest. -/
@[simp]
theorem next_more (token : Token) (rest : Feed) : (more token rest).next = .ok rest := rfl

/-- Moving past a token that is not the end of the file takes it off the front. -/
theorem eq_more_of_next {feed rest : Feed} (moved : feed.next = .ok rest)
    (inner : feed.kind ≠ .eof) : feed = .more feed.current rest := by
  cases feed with
  | eof location => exact absurd rfl inner
  | last token fault => cases moved
  | more token behind =>
    cases moved
    rfl

/-- A feed that cannot be moved past ends in its fault. -/
theorem eq_last_of_next {feed : Feed} {fault : Fault} (stuck : feed.next = .error fault) :
    feed = .last feed.current fault := by
  cases feed with
  | eof location => cases stuck
  | last token behind =>
    cases stuck
    rfl
  | more token rest => cases stuck

/-- Whether the end of the file stands nowhere but at the end. -/
def Proper : Feed → Prop
  | .eof _ => True
  | .last token _ => token.kind ≠ .eof
  | .more token rest => token.kind ≠ .eof ∧ rest.Proper

/-- What is left of a proper feed is proper. -/
theorem Proper.rest {tokens : List Token} {feed : Feed} (proper : (tokens ++ feed).Proper) :
    feed.Proper := by
  induction tokens with
  | nil => exact proper
  | cons token tokens ih => exact ih proper.2

/-- A proper feed whose lookahead is the end of the file is at its end. -/
theorem Proper.eq_eof {feed : Feed} (proper : feed.Proper) (final : feed.kind = .eof) :
    feed = .eof feed.current.location := by
  cases feed with
  | eof location => rfl
  | last token fault => exact absurd final proper
  | more token rest => exact absurd final proper.1

end Cpplet.Feed

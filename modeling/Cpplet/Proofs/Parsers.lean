import Cpplet.Grammar.Parser
import Cpplet.Proofs.Feeds

/-!
# Parsers step by step

What a parser made of parts does is told by its parts: two parsers in a row by what the first
leaves to the second (`bind_apply`), and a repetition by one round and the rounds behind it
(`many_eq`), as long as every round takes a token.
-/

namespace Cpplet

variable {α β : Type}

namespace Outcome

/-- Go on with an accepted value where it was left; a rejection stays. -/
def andThen (outcome : Outcome α) (second : α → Parser β) : Outcome β :=
  match outcome with
  | .accepted value rest => second value rest
  | .rejected error stop => .rejected error stop

/-- An accepted value is gone on with. -/
@[simp]
theorem accepted_andThen (value : α) (rest : Feed) (second : α → Parser β) :
    (accepted value rest).andThen second = second value rest := rfl

/-- The feed where a parser left off. -/
def feed : Outcome α → Feed
  | .accepted _ rest => rest
  | .rejected _ stop => stop

end Outcome

namespace Parser

/-- Two parsers in a row go on where the first leaves off. -/
@[simp]
theorem bind_apply (first : Parser α) (second : α → Parser β) (feed : Feed) :
    (first >>= second) feed = (first feed).andThen second := by
  show Parser.bind first second feed = _
  unfold Parser.bind Outcome.andThen
  rfl

/-- Asking for the kind of the lookahead moves nothing. -/
@[simp]
theorem kind_apply (feed : Feed) : kind feed = .accepted feed.kind feed := rfl

/-- Looking ahead moves nothing. -/
@[simp]
theorem ahead_apply (tests : List (Token → Bool)) (feed : Feed) :
    ahead tests feed = .accepted (feed.startsWith tests) feed := rfl

/-- A token in front can be moved past. -/
@[simp]
theorem advance_more (token : Token) (rest : Feed) :
    advance (.more token rest) = .accepted token rest := rfl

/-- Moving past a token that passes the test is moving past it. -/
theorem satisfy_of_test {test : Kind → Bool} {feed : Feed} (passes : test feed.kind = true)
    (expected : Expectation) : satisfy test expected feed = advance feed := by
  rw [satisfy, if_pos passes]

/-- A token in front that passes the test is moved past. -/
theorem satisfy_more {test : Kind → Bool} {token : Token} (passes : test token.kind = true)
    (expected : Expectation) (rest : Feed) :
    satisfy test expected (.more token rest) = .accepted token rest := by
  rw [satisfy_of_test (by exact passes)]
  rfl

/-- A token in front is moved past where its kind is asked for. -/
theorem eat_more {token : Token} {wanted : Kind} (kind : token.kind = wanted) (rest : Feed) :
    eat wanted (.more token rest) = .accepted token rest :=
  satisfy_more (by simp [kind]) _ rest

/-- A reserved word in front is moved past where it is asked for. -/
theorem word_more {token : Token} {keyword : Keyword} (kind : token.kind = .keyword keyword)
    (rest : Feed) : word keyword (.more token rest) = .accepted token rest :=
  eat_more kind rest

/-- A mark in front is moved past where it is asked for. -/
theorem mark_more {token : Token} {symbol : Mark} (kind : token.kind = .mark symbol)
    (rest : Feed) : mark symbol (.more token rest) = .accepted token rest :=
  eat_more kind rest

/-- Whether every round of a repetition takes a token. -/
def Shrinks (go : Feed → Bool) (item : Parser α) : Prop :=
  ∀ (feed : Feed) (value : α) (rest : Feed),
    go feed = true → item feed = .accepted value rest → rest.size < feed.size

/-- One round of a repetition, which takes a token of the feed that counts the rounds. -/
theorem manyWithin_eq {go : Feed → Bool} {item : Parser α} (shrinks : Shrinks go item)
    {rounds feed : Feed} (enough : feed.size ≤ rounds.size) :
    ∃ others : Feed, feed.size ≤ others.size + 1 ∧
      manyWithin go item rounds feed =
        if go feed then
          (item feed).andThen fun value => do
            let values ← manyWithin go item others
            return value :: values
        else .accepted [] feed := by
  rw [manyWithin.eq_def]
  by_cases goes : go feed = true
  · rw [if_pos goes]
    cases result : item feed with
    | rejected error stop => exact ⟨feed, Nat.le_succ _, (if_pos goes).symm⟩
    | accepted value rest =>
      have fewer := shrinks _ _ _ goes result
      obtain ⟨token, others, rfl⟩ := Feed.eq_more_of_size_pos (by omega : 0 < rounds.size)
      refine ⟨others, enough, ?_⟩
      rw [if_pos goes, Outcome.accepted_andThen, bind_apply]
      simp only
      cases manyWithin go item others rest <;> rfl
  · rw [if_neg goes]
    exact ⟨feed, Nat.le_succ _, (if_neg goes).symm⟩

/-- The count of rounds does not matter as long as it lasts. -/
theorem manyWithin_congr {go : Feed → Bool} {item : Parser α} (shrinks : Shrinks go item)
    {first second feed : Feed} (enoughFirst : feed.size ≤ first.size)
    (enoughSecond : feed.size ≤ second.size) :
    manyWithin go item first feed = manyWithin go item second feed := by
  induction size : feed.size using Nat.strongRecOn generalizing first second feed with
  | ind bound ih =>
    obtain ⟨left, enoughLeft, stepFirst⟩ := manyWithin_eq shrinks enoughFirst
    obtain ⟨right, enoughRight, stepSecond⟩ := manyWithin_eq shrinks enoughSecond
    rw [stepFirst, stepSecond]
    by_cases goes : go feed = true
    · rw [if_pos goes, if_pos goes]
      cases result : item feed with
      | rejected error stop => rfl
      | accepted value rest =>
        have fewer := shrinks _ _ _ goes result
        have same := @ih rest.size (by omega) left right rest (by omega) (by omega) rfl
        simp only [Outcome.accepted_andThen, bind_apply, same]
    · rw [if_neg goes, if_neg goes]

/-- A repetition is one round and the repetition behind it, as long as the test is passed. -/
theorem many_eq {go : Feed → Bool} {item : Parser α} (shrinks : Shrinks go item) (feed : Feed) :
    many go item feed =
      if go feed then
        (item feed).andThen fun value => do
          let values ← many go item
          return value :: values
      else .accepted [] feed := by
  obtain ⟨others, enough, step⟩ := manyWithin_eq shrinks (Nat.le_refl feed.size)
  rw [many, step]
  by_cases goes : go feed = true
  · rw [if_pos goes, if_pos goes]
    cases result : item feed with
    | rejected error stop => rfl
    | accepted value rest =>
      have fewer := shrinks _ _ _ goes result
      have same : manyWithin go item others rest = many go item rest :=
        manyWithin_congr shrinks (by omega) (Nat.le_refl _)
      simp only [Outcome.accepted_andThen, bind_apply, same]
  · rw [if_neg goes, if_neg goes]

/-- A repetition ends where its test is not passed. -/
theorem many_stop {go : Feed → Bool} {item : Parser α} {feed : Feed} (stops : go feed = false) :
    many go item feed = .accepted [] feed := by
  unfold many
  rw [manyWithin.eq_def, stops]
  rfl

end Parser

end Cpplet

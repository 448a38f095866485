import Cpplet.Proofs.Parsers

/-!
# A fence behind the end of the file

Moving past the end of the file leads back to it, so nothing in what a parser makes of a feed tells
whether it was moved past. A fence makes it tell: it is a fault behind the end of the file, which
only moving past the end can meet. A parser that does with every fenced feed what it does with the
feed itself leaves the end of the file alone.

Two parsers are compared in this way at once, on feeds up to some size (`Parser.Echoes`). The second
may be made of other parts than the first, and these have to be the same on feeds up to that size
only: no parser asks its parts about a larger feed than its own. Without a fence the comparison says
just this.
-/

namespace Cpplet

variable {α β : Type}

namespace Feed

/-- A feed with a fault behind the end of the file, if there is one to put there. -/
def fenced (fence : Option Fault) : Feed → Feed
  | .eof location =>
    match fence with
    | some fault => .last (.eof location) fault
    | none => .eof location
  | .last token fault => .last token fault
  | .more token rest => .more token (rest.fenced fence)

variable {fence : Option Fault}

/-- Without a fence a feed stays as it is. -/
@[simp]
theorem fenced_none (feed : Feed) : feed.fenced none = feed := by
  induction feed with
  | eof location => rfl
  | last token fault => rfl
  | more token rest ih => rw [fenced, ih]

/-- The lookahead does not show a fence. -/
@[simp]
theorem current_fenced (feed : Feed) : (feed.fenced fence).current = feed.current := by
  cases feed with
  | eof location => cases fence <;> rfl
  | last token fault => rfl
  | more token rest => rfl

/-- The kind of the lookahead does not show a fence. -/
@[simp]
theorem kind_fenced (feed : Feed) : (feed.fenced fence).kind = feed.kind :=
  congrArg Token.kind feed.current_fenced

/-- Looking ahead for what the end of the file is not does not show a fence. -/
theorem startsWith_fenced {tests : List (Token → Bool)}
    (ends : ∀ test ∈ tests, ∀ location, test (.eof location) = false) (feed : Feed) :
    (feed.fenced fence).startsWith tests = feed.startsWith tests := by
  induction tests generalizing feed with
  | nil => cases feed.fenced fence <;> cases feed <;> rfl
  | cons test tests ih =>
    cases tests with
    | nil => simp only [startsWith, current_fenced]
    | cons second tests =>
      have later := ih fun other member => ends other (List.mem_cons_of_mem _ member)
      simp only [startsWith, current_fenced]
      cases feed with
      | eof location =>
        have fails : test (eof location).current = false := ends test (by simp) location
        rw [fails, Bool.false_and, Bool.false_and]
      | last token fault => rfl
      | more token rest => simp only [fenced, next_more, later rest]

end Feed

/-- An outcome that leaves a fenced feed. -/
def Outcome.fenced (fence : Option Fault) : Outcome α → Outcome α
  | .accepted value rest => .accepted value (rest.fenced fence)
  | .rejected error stop => .rejected error (stop.fenced fence)

/-- Without a fence an outcome stays as it is. -/
@[simp]
theorem Outcome.fenced_none (outcome : Outcome α) : outcome.fenced none = outcome := by
  cases outcome <;> rw [fenced, Feed.fenced_none]

namespace Parser

/-- Whether a parser leaves no more than it was given, and another does with the fenced feed what
it does with the feed. -/
def EchoesAt (fence : Option Fault) (feed : Feed) (voice echo : Parser α) : Prop :=
  (voice feed).feed.size ≤ feed.size ∧ echo (feed.fenced fence) = (voice feed).fenced fence

/-- Whether one parser echoes another at all feeds up to a size. -/
def Echoes (fence : Option Fault) (bound : Nat) (voice echo : Parser α) : Prop :=
  ∀ feed : Feed, feed.size ≤ bound → EchoesAt fence feed voice echo

variable {fence : Option Fault} {bound : Nat}

/-- A parser that echoes itself is echoed by every other that does the same on the feeds that are
looked at. -/
theorem Echoes.of_eq {voice echo : Parser α} (own : Echoes none bound voice voice)
    (same : ∀ feed : Feed, feed.size ≤ bound → echo feed = voice feed) :
    Echoes none bound voice echo := by
  intro feed small
  refine ⟨(own feed small).1, ?_⟩
  rw [Feed.fenced_none, Outcome.fenced_none, same feed small]

/-- Without a fence, a parser that is echoed at a feed does the same there as its echo. -/
theorem EchoesAt.eq {feed : Feed} {voice echo : Parser α} (echoes : EchoesAt none feed voice echo) :
    echo feed = voice feed := by
  have same := echoes.2
  rwa [Feed.fenced_none, Outcome.fenced_none] at same

/-- A value is echoed. -/
theorem echoes_pure (value : α) : Echoes fence bound (Pure.pure value) (Pure.pure value) :=
  fun _ _ => ⟨Nat.le_refl _, rfl⟩

/-- Two parsers in a row are echoed at a feed if the first is there and the second everywhere. -/
theorem EchoesAt.bind {feed : Feed} (small : feed.size ≤ bound) {voice echo : Parser α}
    {voices echoes : α → Parser β} (first : EchoesAt fence feed voice echo)
    (second : ∀ value, Echoes fence bound (voices value) (echoes value)) :
    EchoesAt fence feed (voice >>= voices) (echo >>= echoes) := by
  obtain ⟨narrows, same⟩ := first
  rw [EchoesAt, bind_apply, bind_apply, same]
  cases outcome : voice feed with
  | rejected error stop =>
    rw [outcome] at narrows
    exact ⟨narrows, rfl⟩
  | accepted value rest =>
    rw [outcome] at narrows
    have smaller : rest.size ≤ feed.size := narrows
    obtain ⟨narrowsNext, sameNext⟩ := second value rest (Nat.le_trans smaller small)
    exact ⟨Nat.le_trans narrowsNext smaller, sameNext⟩

/-- Two parsers in a row are echoed if both are. -/
theorem Echoes.bind {voice echo : Parser α} {voices echoes : α → Parser β}
    (first : Echoes fence bound voice echo)
    (second : ∀ value, Echoes fence bound (voices value) (echoes value)) :
    Echoes fence bound (voice >>= voices) (echo >>= echoes) :=
  fun feed small => (first feed small).bind small second

/-- What is expected is echoed. -/
theorem echoes_unexpected (expected : Expectation) :
    Echoes fence bound (unexpected expected : Parser α) (unexpected expected) := by
  intro feed _
  refine ⟨Nat.le_refl _, ?_⟩
  unfold unexpected
  rw [Feed.current_fenced]
  rfl

/-- Giving up nesting is echoed. -/
theorem echoes_tooDeep (nested : Nesting) :
    Echoes fence bound (tooDeep nested : Parser α) (tooDeep nested) := by
  intro feed _
  refine ⟨Nat.le_refl _, ?_⟩
  unfold tooDeep
  rw [Feed.current_fenced]
  rfl

/-- Moving past the lookahead is echoed unless it is the end of the file. -/
theorem echoesAt_advance {feed : Feed} (inner : feed.kind ≠ .eof) :
    EchoesAt fence feed advance advance := by
  cases feed with
  | eof location => exact absurd rfl inner
  | last token fault => exact ⟨Nat.le_refl _, rfl⟩
  | more token rest => exact ⟨Nat.le_succ _, rfl⟩

/-- Going on by the kind of the lookahead is echoed if going on is, where the lookahead is of that
kind. -/
theorem echoes_kind {voices echoes : Kind → Parser α}
    (next : ∀ feed : Feed, feed.size ≤ bound →
      EchoesAt fence feed (voices feed.kind) (echoes feed.kind)) :
    Echoes fence bound (kind >>= voices) (kind >>= echoes) := by
  intro feed small
  have same := next feed small
  rw [EchoesAt] at same ⊢
  simpa only [bind_apply, kind_apply, Outcome.accepted_andThen, Feed.kind_fenced] using same

/-- Moving past a lookahead that passes a test is echoed, if the end of the file does not. -/
theorem echoes_satisfy {test : Kind → Bool} (ends : test .eof = false) (expected : Expectation) :
    Echoes fence bound (satisfy test expected) (satisfy test expected) := by
  intro feed small
  rw [EchoesAt, satisfy, satisfy, Feed.kind_fenced]
  by_cases passes : test feed.kind = true
  · rw [if_pos passes, if_pos passes]
    refine echoesAt_advance fun final => ?_
    rw [final, ends] at passes
    cases passes
  · rw [if_neg passes, if_neg passes]
    exact echoes_unexpected expected feed small

/-- Moving past a token of a kind is echoed. -/
theorem echoes_eat {kind : Kind} (inner : kind ≠ .eof) :
    Echoes fence bound (eat kind) (eat kind) :=
  echoes_satisfy (by simpa using inner.symm) _

/-- Moving past a reserved word is echoed. -/
theorem echoes_word (keyword : Keyword) : Echoes fence bound (word keyword) (word keyword) :=
  echoes_eat (by simp)

/-- Moving past a mark is echoed. -/
theorem echoes_mark (symbol : Mark) : Echoes fence bound (mark symbol) (mark symbol) :=
  echoes_eat (by simp)

/-- Two ways to go on, chosen by the kind of the lookahead, are echoed if both are. -/
theorem echoes_kind_ite {test : Kind → Prop} [DecidablePred test] {yes yes' no no' : Parser α}
    (echoesYes : Echoes fence bound yes yes') (echoesNo : Echoes fence bound no no') :
    Echoes fence bound (do if test (← kind) then yes else no)
      (do if test (← kind) then yes' else no') := by
  refine echoes_kind fun feed small => ?_
  split
  · exact echoesYes feed small
  · exact echoesNo feed small

/-- Two ways to go on, chosen by looking ahead for what the end of the file is not, are echoed if
both are. -/
theorem echoes_ahead {tests : List (Token → Bool)}
    (ends : ∀ test ∈ tests, ∀ location, test (.eof location) = false)
    {yes yes' no no' : Parser α} (echoesYes : Echoes fence bound yes yes')
    (echoesNo : Echoes fence bound no no') :
    Echoes fence bound (do if ← ahead tests then yes else no)
      (do if ← ahead tests then yes' else no') := by
  intro feed small
  rw [EchoesAt]
  simp only [bind_apply, ahead_apply, Outcome.accepted_andThen, Feed.startsWith_fenced ends]
  split
  · exact echoesYes feed small
  · exact echoesNo feed small

/-- Two ways to go on, chosen by what does not show a fence, are echoed if both are. -/
theorem echoes_choose {test : Feed → Bool}
    (blind : ∀ feed : Feed, test (feed.fenced fence) = test feed) {yes yes' no no' : Parser α}
    (echoesYes : Echoes fence bound yes yes') (echoesNo : Echoes fence bound no no') :
    Echoes fence bound (choose test yes no) (choose test yes' no') := by
  intro feed small
  rw [EchoesAt, choose, choose, blind feed]
  split
  · exact echoesYes feed small
  · exact echoesNo feed small

/-- A round of a repetition that may go on, and the rounds behind it. -/
theorem manyWithin_more {go : Feed → Bool} {item : Parser α} (token : Token) (rounds : Feed)
    {feed : Feed} (goes : go feed = true) :
    manyWithin go item (.more token rounds) feed =
      (do
        let value ← item
        let values ← manyWithin go item rounds
        return value :: values : Parser (List α)) feed := by
  rw [manyWithin, if_pos goes, bind_apply]
  cases item feed with
  | rejected error stop => rfl
  | accepted value rest =>
    simp only [Outcome.accepted_andThen, bind_apply]
    cases manyWithin go item rounds rest <;> rfl

/-- The last round of a repetition whose count is used up. -/
theorem manyWithin_last {go : Feed → Bool} {item : Parser α} {rounds : Feed}
    (spent : rounds.size = 0) {feed : Feed} (goes : go feed = true) :
    manyWithin go item rounds feed =
      (do
        let value ← item
        return [value] : Parser (List α)) feed := by
  rw [manyWithin.eq_def, if_pos goes, bind_apply]
  cases rounds with
  | more token rounds => cases spent
  | eof location => cases item feed <;> rfl
  | last token fault => cases item feed <;> rfl

/-- A repetition over a number of rounds is echoed if each round is, where its test is passed. -/
theorem echoes_manyWithin {go : Feed → Bool} {voice echo : Parser α}
    (blind : ∀ feed : Feed, go (feed.fenced fence) = go feed)
    (item : ∀ feed : Feed, feed.size ≤ bound → go feed = true → EchoesAt fence feed voice echo)
    (rounds : Feed) :
    Echoes fence bound (manyWithin go voice rounds) (manyWithin go echo (rounds.fenced fence)) := by
  -- A fenced count is used up where the count is.
  have last : ∀ count count' : Feed, count.size = 0 → count'.size = 0 →
      Echoes fence bound (manyWithin go voice count) (manyWithin go echo count') := by
    intro count count' spent spent' feed small
    by_cases goes : go feed = true
    · have goesFenced : go (feed.fenced fence) = true := by rw [blind, goes]
      rw [EchoesAt, manyWithin_last spent goes, manyWithin_last spent' goesFenced]
      exact (item feed small goes).bind small fun value => echoes_pure [value]
    · rw [EchoesAt, manyWithin.eq_def, manyWithin.eq_def go echo, blind, if_neg goes, if_neg goes]
      exact ⟨Nat.le_refl _, rfl⟩
  induction rounds with
  | eof location =>
    refine last _ _ rfl ?_
    cases fence <;> rfl
  | last token fault => exact last _ _ rfl rfl
  | more token rounds ih =>
    intro feed small
    by_cases goes : go feed = true
    · have goesFenced : go (feed.fenced fence) = true := by rw [blind, goes]
      rw [EchoesAt, Feed.fenced, manyWithin_more _ _ goes, manyWithin_more _ _ goesFenced]
      exact (item feed small goes).bind small fun value => ih.bind fun values => echoes_pure _
    · rw [EchoesAt, Feed.fenced, manyWithin, manyWithin, blind, if_neg goes, if_neg goes]
      exact ⟨Nat.le_refl _, rfl⟩

/-- A repetition is echoed if each round is, where its test is passed. -/
theorem echoes_many {go : Feed → Bool} {voice echo : Parser α}
    (blind : ∀ feed : Feed, go (feed.fenced fence) = go feed)
    (item : ∀ feed : Feed, feed.size ≤ bound → go feed = true → EchoesAt fence feed voice echo) :
    Echoes fence bound (many go voice) (many go echo) :=
  fun feed small => echoes_manyWithin blind item feed feed small

/-- A repetition as long as the lookahead is of one kind is echoed if each round is. -/
theorem echoes_manyAt (kind : Kind) {voice echo : Parser α} (item : Echoes fence bound voice echo) :
    Echoes fence bound (ParserLike.manyAt kind voice) (ParserLike.manyAt kind echo) :=
  echoes_many (fun feed => by rw [Feed.kind_fenced]) fun feed small _ => item feed small

end Parser

end Cpplet

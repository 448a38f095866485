import Cpplet.Proofs.Parsers

/-!
# Languages that parsers read

A language is a set of token sequences, each with a value that it is read as. A parser reads a
language if it takes a sequence of it off the front of a feed wherever it accepts, with the value
of that sequence, and if the tokens that it passed wherever it rejects still begin a sequence of
the language. The second half says that no token is passed which cannot be made good, whatever
the reason of the rejection is.

Reading is kept by everything that parsers are made of, so that a parser is shown to read a
language by following its definition.
-/

namespace Cpplet

variable {α β : Type}

/-- A set of token sequences, each with a value that it is read as. -/
def Language (α : Type) : Type := List Token → α → Prop

namespace Language

/-- The empty sequence, read as one value. -/
def empty (value : α) : Language α := fun tokens found => tokens = [] ∧ found = value

/-- One token whose kind passes a test. -/
def token (test : Kind → Bool) : Language Token := fun tokens found =>
  tokens = [found] ∧ test found.kind = true

/-- One token of a kind. -/
def one (kind : Kind) : Language Token := fun tokens found => tokens = [found] ∧ found.kind = kind

/-- One sequence, and then another of a language that depends on the value of the first. -/
def seq (first : Language α) (second : α → Language β) : Language β := fun tokens found =>
  ∃ front value behind, tokens = front ++ behind ∧ first front value ∧ second value behind found

/-- Sequences of a language one behind the other. -/
inductive Star (item : Language α) : Language (List α) where
  /-- None at all. -/
  | nil : Star item [] []
  /-- One in front of others. -/
  | cons {front behind : List Token} {value : α} {values : List α} (first : item front value)
      (others : Star item behind values) : Star item (front ++ behind) (value :: values)

/-- Whether tokens begin a sequence of a language. -/
def Opens (language : Language α) (tokens : List Token) : Prop :=
  ∃ more value, language (tokens ++ more) value

/-- What may stand behind tokens to make a sequence of a language. -/
def after (language : Language α) (front : List Token) : Language α := fun tokens value =>
  language (front ++ tokens) value

/-- A beginning of what may stand behind tokens begins a sequence behind them. -/
theorem Opens.behind {language : Language α} {front tokens : List Token}
    (opens : (language.after front).Opens tokens) : language.Opens (front ++ tokens) := by
  obtain ⟨more, value, member⟩ := opens
  refine ⟨more, value, ?_⟩
  rw [List.append_assoc]
  exact member

/-- No tokens begin every sequence. -/
theorem opens_nil {language : Language α} {tokens : List Token} {value : α}
    (member : language tokens value) : language.Opens [] :=
  ⟨tokens, value, member⟩

/-- What begins a sequence of a smaller language begins one of a larger language. -/
theorem Opens.mono {small large : Language α} {tokens : List Token} (opens : small.Opens tokens)
    (included : ∀ tokens value, small tokens value → large tokens value) : large.Opens tokens := by
  obtain ⟨more, value, member⟩ := opens
  exact ⟨more, value, included _ _ member⟩

/-- A beginning of the first sequence begins both, if the second can always follow. -/
theorem Opens.first {first : Language α} {second : α → Language β} {tokens : List Token}
    (opens : first.Opens tokens) (follows : ∀ value, (second value).Opens []) :
    (first.seq second).Opens tokens := by
  obtain ⟨more, value, member⟩ := opens
  obtain ⟨behind, found, follow⟩ := follows value
  exact ⟨more ++ behind, found, tokens ++ more, value, behind, by simp, member, follow⟩

/-- The first sequence and a beginning of the second begin both. -/
theorem Opens.second {first : Language α} {second : α → Language β} {front tokens : List Token}
    {value : α} (member : first front value) (opens : (second value).Opens tokens) :
    (first.seq second).Opens (front ++ tokens) := by
  obtain ⟨more, found, follow⟩ := opens
  exact ⟨more, found, front, value, tokens ++ more, by simp, member, follow⟩

end Language

/-- Whether an error is the one that stands where a parser stopped: a lexical error is the fault
behind the lookahead, and any other error is blamed on the lookahead. -/
def Feed.Bears (stop : Feed) : SourceError → Prop
  | .lexical error => ∃ token fault, stop = .last token fault ∧ error = fault.error
  | .grammatical error => error.location = stop.current.location

/-- Whether an error that tells what was found instead of something expected tells of the
lookahead. -/
def Feed.Names (stop : Feed) (error : SourceError) : Prop :=
  ∀ expected found location,
    error = .grammatical ⟨.unexpected expected found, location⟩ → found = stop.current

/-- Whether what a parser made of a feed fits a language. -/
def Outcome.Fits (language : Language α) (feed : Feed) : Outcome α → Prop
  | .accepted value rest => ∃ tokens, feed = tokens ++ rest ∧ language tokens value
  | .rejected error stop =>
    ∃ tokens, feed = tokens ++ stop ∧ language.Opens tokens ∧ stop.Bears error ∧ stop.Names error

namespace Outcome

/-- What fits a smaller language fits a larger one. -/
theorem Fits.mono {small large : Language α} {feed : Feed} {outcome : Outcome α}
    (fits : outcome.Fits small feed)
    (included : ∀ tokens value, small tokens value → large tokens value) :
    outcome.Fits large feed := by
  cases outcome with
  | accepted value rest =>
    obtain ⟨tokens, split, member⟩ := fits
    exact ⟨tokens, split, included _ _ member⟩
  | rejected error stop =>
    obtain ⟨tokens, split, opens, bears⟩ := fits
    exact ⟨tokens, split, opens.mono included, bears⟩

/-- The feed where a parser left off is not larger than the one that it began with. -/
theorem Fits.size_le {language : Language α} {feed : Feed} {outcome : Outcome α}
    (fits : outcome.Fits language feed) : outcome.feed.size ≤ feed.size := by
  cases outcome with
  | accepted value rest =>
    obtain ⟨tokens, rfl, -⟩ := fits
    simp [Outcome.feed]
  | rejected error stop =>
    obtain ⟨tokens, rfl, -⟩ := fits
    simp [Outcome.feed]

/-- A rejection behind a sequence of one language fits that language and the next. -/
theorem Fits.andThen {first : Language α} {second : α → Language β} {feed : Feed}
    {outcome : Outcome α} {next : α → Parser β} (fits : outcome.Fits first feed)
    (follows : ∀ value, (second value).Opens [])
    (fitsNext : ∀ value feed, (next value feed).Fits (second value) feed) :
    (outcome.andThen next).Fits (first.seq second) feed := by
  cases outcome with
  | rejected error stop =>
    obtain ⟨tokens, split, opens, bears⟩ := fits
    exact ⟨tokens, split, opens.first follows, bears⟩
  | accepted value rest =>
    obtain ⟨front, rfl, member⟩ := fits
    rw [accepted_andThen]
    have fitsRest := fitsNext value rest
    cases result : next value rest with
    | accepted found last =>
      rw [result] at fitsRest
      obtain ⟨behind, rfl, follow⟩ := fitsRest
      exact ⟨front ++ behind, by simp, front, value, behind, rfl, member, follow⟩
    | rejected error stop =>
      rw [result] at fitsRest
      obtain ⟨behind, rfl, opens, bears⟩ := fitsRest
      exact ⟨front ++ behind, by simp, .second member opens, bears⟩

/-- What fits behind tokens fits with them in front. -/
theorem Fits.behind {language : Language α} {front : List Token} {rest : Feed}
    {outcome : Outcome α} (fits : outcome.Fits (language.after front) rest) :
    outcome.Fits language (front ++ rest) := by
  cases outcome with
  | accepted value last =>
    obtain ⟨tokens, rfl, member⟩ := fits
    exact ⟨front ++ tokens, by simp, member⟩
  | rejected error stop =>
    obtain ⟨tokens, rfl, opens, bears⟩ := fits
    exact ⟨front ++ tokens, by simp, opens.behind, bears⟩

end Outcome

namespace Parser

/-- Whether what a parser accepts, with the feed that it leaves, has a property. -/
def Ensures (post : α → Feed → Prop) (parser : Parser α) : Prop :=
  ∀ feed value rest, parser feed = .accepted value rest → post value rest

/-- What the second of two parsers ensures, whatever the first accepts, both ensure. -/
theorem Ensures.bind {post : β → Feed → Prop} {first : Parser α} {second : α → Parser β}
    (ensures : ∀ value, (second value).Ensures post) : (first >>= second).Ensures post := by
  intro feed found last accepted
  rw [bind_apply] at accepted
  cases result : first feed with
  | accepted value rest =>
    rw [result] at accepted
    exact ensures value rest found last accepted
  | rejected error stop =>
    rw [result] at accepted
    cases accepted

/-- A value is left before every feed. -/
theorem ensures_pure {post : α → Feed → Prop} {value : α} (holds : ∀ rest, post value rest) :
    Ensures post (Pure.pure value) := by
  intro feed found rest accepted
  cases accepted
  exact holds feed

/-- Whether a parser reads a language. -/
structure Reads (parser : Parser α) (language : Language α) : Prop where
  /-- The language has a sequence. -/
  opens : language.Opens []
  /-- What the parser makes of a feed fits the language. -/
  fits : ∀ feed, (parser feed).Fits language feed

/-- A parser that reads a language reads every larger one. -/
theorem Reads.mono {parser : Parser α} {small large : Language α} (reads : parser.Reads small)
    (included : ∀ tokens value, small tokens value → large tokens value) : parser.Reads large :=
  ⟨reads.opens.mono included, fun feed => (reads.fits feed).mono included⟩

/-- A value is read off no tokens. -/
theorem reads_pure (value : α) : Reads (Pure.pure value) (Language.empty value) :=
  ⟨Language.opens_nil ⟨rfl, rfl⟩, fun _ => ⟨[], rfl, rfl, rfl⟩⟩

/-- Two parsers in a row read two languages in a row. -/
theorem Reads.bind {first : Parser α} {second : α → Parser β} {left : Language α}
    {right : α → Language β} (readsFirst : first.Reads left)
    (readsSecond : ∀ value, (second value).Reads (right value)) :
    (first >>= second).Reads (left.seq right) where
  opens := readsFirst.opens.first fun value => (readsSecond value).opens
  fits feed := by
    rw [bind_apply]
    exact (readsFirst.fits feed).andThen (fun value => (readsSecond value).opens)
      fun value => (readsSecond value).fits

/-- Two parsers in a row read a language, if the second reads what may stand behind whatever the
first accepts. Of the feeds that the first leaves, only those count that it ensures. -/
theorem Reads.ensuring {first : Parser α} {second : α → Parser β} {left : Language α}
    {language : Language β} {post : α → Feed → Prop} (readsFirst : first.Reads left)
    (ensures : first.Ensures post)
    (opens : ∀ front value, left front value → (language.after front).Opens [])
    (fits : ∀ front value, left front value → ∀ rest, post value rest →
      (second value rest).Fits (language.after front) rest) :
    (first >>= second).Reads language where
  opens := by
    obtain ⟨tokens, value, member⟩ := readsFirst.opens
    obtain ⟨more, found, follow⟩ := opens _ _ member
    exact ⟨_, found, follow⟩
  fits feed := by
    have fitsFirst := readsFirst.fits feed
    rw [bind_apply]
    cases result : first feed with
    | rejected error stop =>
      rw [result] at fitsFirst
      obtain ⟨tokens, split, ⟨more, value, member⟩, bears⟩ := fitsFirst
      obtain ⟨behind, found, follow⟩ := opens _ _ member
      refine ⟨tokens, split, ⟨more ++ behind, found, ?_⟩, bears⟩
      rw [← List.append_assoc]
      exact follow
    | accepted value rest =>
      have holds := ensures feed value rest result
      rw [result] at fitsFirst
      obtain ⟨front, rfl, member⟩ := fitsFirst
      exact (fits front value member rest holds).behind

/-- Two parsers in a row read a language, if the second reads what may stand behind whatever the
first accepts. -/
theorem Reads.step {first : Parser α} {second : α → Parser β} {left : Language α}
    {language : Language β} (readsFirst : first.Reads left)
    (readsSecond : ∀ front value, left front value →
      (second value).Reads (language.after front)) :
    (first >>= second).Reads language :=
  readsFirst.ensuring (fun _ _ _ _ => trivial) (fun _ _ member => (readsSecond _ _ member).opens)
    fun _ _ member rest _ => (readsSecond _ _ member).fits rest

/-- Nothing more is read behind a whole sequence. -/
theorem reads_done {language : Language α} {front : List Token} {value : α}
    (member : language front value) : Reads (Pure.pure value) (language.after front) := by
  have whole : language.after front [] value := by
    rw [Language.after, List.append_nil]
    exact member
  exact ⟨⟨[], value, whole⟩, fun feed => ⟨[], rfl, whole⟩⟩

/-- A place that expects something else may stand before every sequence. -/
theorem fits_unexpected {language : Language α} (opens : language.Opens [])
    (expected : Expectation) (feed : Feed) :
    (unexpected expected feed : Outcome α).Fits language feed :=
  ⟨[], rfl, opens, rfl, fun _ _ _ same => by cases same; rfl⟩

/-- Nesting may be given up before every sequence. -/
theorem reads_tooDeep {language : Language α} (opens : language.Opens []) (nested : Nesting) :
    Reads (tooDeep nested) language :=
  ⟨opens, fun _ => ⟨[], rfl, opens, rfl, fun _ _ _ same => nomatch same⟩⟩

/-- A token of every kind, as a source might hold it. -/
def sample : Kind → Token
  | .integer => ⟨.integer, some (.integer 0), .start⟩
  | .float => ⟨.float, some (.float (Decimal.Binary64.ofDecimal 0 0)), .start⟩
  | .char => ⟨.char, some (.char 97), .start⟩
  | .string => ⟨.string, some (.string ""), .start⟩
  | .name => ⟨.name, some (.name "x"), .start⟩
  | .eof => .eof .start
  | kind => .fixed kind .start

/-- The sample of a kind is of that kind. -/
@[simp]
theorem kind_sample (kind : Kind) : (sample kind).kind = kind := by
  cases kind <;> rfl

/-- The language of one token has a sequence if a kind passes its test. -/
theorem opens_token {test : Kind → Bool} {kind : Kind} (passes : test kind = true) :
    (Language.token test).Opens [] :=
  ⟨[sample kind], sample kind, rfl, by rwa [kind_sample]⟩

/-- Moving past a lookahead that passes a test reads one token. -/
theorem fits_advance {test : Kind → Bool} (ends : test .eof = false) {feed : Feed}
    (passes : test feed.kind = true) : (advance feed).Fits (Language.token test) feed := by
  have inner : feed.kind ≠ .eof := by
    intro final
    rw [final, ends] at passes
    cases passes
  unfold advance
  cases moved : feed.next with
  | ok rest =>
    exact ⟨[feed.current], Feed.eq_more_of_next moved inner, rfl, passes⟩
  | error fault =>
    have last := Feed.eq_last_of_next moved
    exact ⟨[], rfl, opens_token passes, ⟨feed.current, fault, last, rfl⟩,
      fun _ _ _ same => nomatch same⟩

/-- A test on the lookahead reads one token that passes it. -/
theorem reads_satisfy {test : Kind → Bool} (ends : test .eof = false) {kind : Kind}
    (passes : test kind = true) (expected : Expectation) :
    Reads (satisfy test expected) (Language.token test) where
  opens := opens_token passes
  fits feed := by
    unfold satisfy
    split
    · rename_i fits
      exact fits_advance ends fits
    · exact fits_unexpected (opens_token passes) expected feed

/-- Asking for a kind reads one token of it. -/
theorem reads_eat {kind : Kind} (inner : kind ≠ .eof) : Reads (eat kind) (Language.one kind) := by
  have ends : decide (Kind.eof = kind) = false := by simpa using inner.symm
  refine (@reads_satisfy _ ends kind (by simp) _).mono ?_
  rintro tokens value ⟨rfl, same⟩
  exact ⟨rfl, by simpa using same⟩

/-- Asking for a reserved word reads it. -/
theorem reads_word (keyword : Keyword) : Reads (word keyword) (Language.one (.keyword keyword)) :=
  reads_eat (by simp)

/-- Asking for a mark reads it. -/
theorem reads_mark (symbol : Mark) : Reads (mark symbol) (Language.one (.mark symbol)) :=
  reads_eat (by simp)

/-- Going on by the kind of the lookahead reads a language if going on does at every feed. -/
theorem reads_kind_bind {next : Kind → Parser α} {language : Language α}
    (opens : language.Opens []) (fits : ∀ feed, (next feed.kind feed).Fits language feed) :
    Reads (kind >>= next) language :=
  ⟨opens, fun feed => by
    rw [bind_apply]
    exact fits feed⟩

/-- Two ways to go on, chosen by the kind of the lookahead, read the language that both read. -/
theorem reads_kind_ite {test : Kind → Prop} [DecidablePred test] {yes no : Parser α}
    {language : Language α} (readsYes : yes.Reads language) (readsNo : no.Reads language) :
    Reads (do if test (← kind) then yes else no) language :=
  reads_kind_bind readsYes.opens fun feed => by
    by_cases passes : test feed.kind
    · rw [if_pos passes]
      exact readsYes.fits feed
    · rw [if_neg passes]
      exact readsNo.fits feed

/-- Two ways to go on, chosen by looking ahead, read the language that both read. -/
theorem reads_ahead_ite {tests : List (Token → Bool)} {yes no : Parser α}
    {language : Language α} (readsYes : yes.Reads language) (readsNo : no.Reads language) :
    Reads (do if ← ahead tests then yes else no) language :=
  ⟨readsYes.opens, fun feed => by
    rw [bind_apply, ahead_apply, Outcome.accepted_andThen]
    by_cases passes : feed.startsWith tests = true
    · rw [if_pos passes]
      exact readsYes.fits feed
    · rw [if_neg passes]
      exact readsNo.fits feed⟩

/-- A parser whose accepted sequences are never empty makes every round of a repetition take a
token. -/
theorem shrinks_of_fits {go : Feed → Bool} {item : Parser α} {language : Language α}
    (fits : ∀ feed, go feed = true → (item feed).Fits language feed)
    (nonempty : ∀ tokens value, language tokens value → tokens ≠ []) : Shrinks go item := by
  intro feed value rest goes accepted
  have fitsHere := fits feed goes
  rw [accepted] at fitsHere
  obtain ⟨tokens, rfl, member⟩ := fitsHere
  have some : 0 < tokens.length := List.length_pos_iff.mpr (nonempty tokens value member)
  rw [Feed.size_append]
  omega

/-- A repetition of a parser reads sequences one behind the other. -/
theorem reads_many {go : Feed → Bool} {item : Parser α} {language : Language α}
    (fits : ∀ feed, go feed = true → (item feed).Fits language feed)
    (nonempty : ∀ tokens value, language tokens value → tokens ≠ []) :
    Reads (many go item) (Language.Star language) where
  opens := Language.opens_nil .nil
  fits feed := by
    have shrinks := shrinks_of_fits fits nonempty
    -- Every round leaves a smaller feed, so the size carries the induction.
    induction size : feed.size using Nat.strongRecOn generalizing feed with
    | ind bound ih =>
      rw [many_eq shrinks]
      by_cases goes : go feed = true
      · rw [if_pos goes]
        have fitsHere := fits feed goes
        cases result : item feed with
        | rejected error stop =>
          rw [result] at fitsHere
          obtain ⟨tokens, split, ⟨more, value, member⟩, bears⟩ := fitsHere
          refine ⟨tokens, split, ⟨more, [value], ?_⟩, bears⟩
          have single := Language.Star.cons member .nil
          rwa [List.append_nil] at single
        | accepted value rest =>
          have fewer := shrinks _ _ _ goes result
          rw [result] at fitsHere
          obtain ⟨front, rfl, member⟩ := fitsHere
          have fitsRest := ih rest.size (by omega) rest rfl
          rw [Outcome.accepted_andThen, bind_apply]
          cases behind : many go item rest with
          | accepted values last =>
            rw [behind] at fitsRest
            obtain ⟨tokens, rfl, others⟩ := fitsRest
            exact ⟨front ++ tokens, by simp, .cons member others⟩
          | rejected error stop =>
            rw [behind] at fitsRest
            obtain ⟨tokens, rfl, ⟨more, values, others⟩, bears⟩ := fitsRest
            refine ⟨front ++ tokens, by simp, ⟨more, value :: values, ?_⟩, bears⟩
            rw [List.append_assoc]
            exact .cons member others
      · rw [if_neg goes]
        exact ⟨[], rfl, .nil⟩

end Parser

end Cpplet

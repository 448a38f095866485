import Cpplet.CommandLine.Report
import Cpplet.Explorer.State
import Cpplet.Proofs.Lexing
import Cpplet.Proofs.Programs

/-!
# Parsing and listing agree on unreadable sources

The parser reads one token ahead and looks further only to decide, while a listing reads all
tokens at once. Both meet the same first lexical error: a program is accepted only where the end
of the file has been reached, and a lexical rejection stands before the very fault that ends the
feed. So a source that was parsed can be listed and explored, and the exit status of the command
tells whether the source was parsed, whatever else is asked for.
-/

namespace Cpplet

open Grammar

/-- Tokens in front are read before everything else. -/
theorem Feed.batch_append (tokens : List Token) (feed : Feed) :
    (tokens ++ feed).batch = feed.batch.map (tokens ++ ·) := by
  induction tokens with
  | nil =>
    rw [Feed.nil_append]
    cases feed.batch <;> rfl
  | cons token tokens ih =>
    rw [Feed.cons_append, Feed.batch, ih]
    cases feed.batch <;> rfl

/-- The feed of a source has the end of the file nowhere but at its end. -/
theorem Feed.proper_ofCursor {cursor : Cursor} {feed : Feed} (read : ofCursor cursor = .ok feed) :
    feed.Proper :=
  proper_of_feeds (read ▸ feeds_ofCursor cursor)

/-- A source that was parsed is a program from its first token to the end of the file. -/
theorem parse_ok {budget : Nat} {source : String} {program : Program}
    (parsed : parseWithin budget source = .ok program) :
    ∃ (tokens : List Token) (location : Location),
      Feed.ofCursor (.ofSource source) = .ok (tokens ++ Feed.eof location) ∧
        wholeProgram budget (tokens ++ Feed.eof location) = .accepted program (.eof location) ∧
          ProgramWritten tokens program := by
  cases read : Feed.ofCursor (.ofSource source) with
  | error fault =>
    rw [parseWithin, read] at parsed
    cases parsed
  | ok feed =>
    have fits := (reads_wholeProgram budget).fits feed
    have same : parseWithin budget source = parseFeed budget feed := by rw [parseWithin, read]
    rw [same, parseFeed] at parsed
    cases outcome : wholeProgram budget feed with
    | rejected error stop =>
      rw [outcome] at parsed
      cases parsed
    | accepted found rest =>
      have final := ensures_wholeProgram budget feed found rest outcome
      rw [outcome] at parsed fits
      cases parsed
      obtain ⟨tokens, rfl, writes⟩ := fits
      have whole : rest = .eof rest.current.location :=
        (Feed.proper_ofCursor read).rest.eq_eof final
      refine ⟨tokens, rest.current.location, ?_, ?_, writes⟩
      · rw [← whole]
      · rw [← whole]
        exact outcome

/-- A source that was not parsed either begins with a lexical error or was rejected behind tokens
that begin a program, with an error that stands there. -/
theorem parse_error {budget : Nat} {source : String} {error : SourceError}
    (failed : parseWithin budget source = .error error) :
    (∃ fault, Feed.ofCursor (.ofSource source) = .error fault ∧ error = .lexical fault.error) ∨
      ∃ (tokens : List Token) (stop : Feed),
        Feed.ofCursor (.ofSource source) = .ok (tokens ++ stop) ∧
          wholeProgram budget (tokens ++ stop) = .rejected error stop ∧
            Language.Opens ProgramWritten tokens ∧ stop.Bears error := by
  cases read : Feed.ofCursor (.ofSource source) with
  | error fault =>
    rw [parseWithin, read] at failed
    cases failed
    exact .inl ⟨fault, rfl, rfl⟩
  | ok feed =>
    have fits := (reads_wholeProgram budget).fits feed
    have same : parseWithin budget source = parseFeed budget feed := by rw [parseWithin, read]
    rw [same, parseFeed] at failed
    cases outcome : wholeProgram budget feed with
    | accepted found rest =>
      rw [outcome] at failed
      cases failed
    | rejected found stop =>
      rw [outcome] at failed fits
      cases failed
      obtain ⟨tokens, rfl, opens, bears, -⟩ := fits
      exact .inr ⟨tokens, stop, rfl, outcome, opens, bears⟩

/-- What a source that was not parsed is told to hold instead of something expected is one of its
tokens. -/
theorem parse_found {budget : Nat} {source : String} {expected : Expectation} {found : Token}
    {location : Location} (failed : parseWithin budget source =
      .error (.grammatical ⟨.unexpected expected found, location⟩)) :
    ∃ (tokens : List Token) (stop : Feed),
      Feed.ofCursor (.ofSource source) = .ok (tokens ++ stop) ∧ found = stop.current := by
  rcases parse_error failed with ⟨fault, -, other⟩ | ⟨tokens, stop, read, rejected, -, -⟩
  · cases other
  · have fits := (reads_wholeProgram budget).fits (tokens ++ stop)
    rw [rejected] at fits
    obtain ⟨-, -, -, -, names⟩ := fits
    exact ⟨tokens, stop, read, names _ _ _ rfl⟩

/-- A source that was parsed can be read to its end. -/
theorem tokenize_of_parse {budget : Nat} {source : String} {program : Program}
    (parsed : parseWithin budget source = .ok program) :
    ∃ tokens, tokenize source = .ok tokens := by
  obtain ⟨tokens, location, read, -, -⟩ := parse_ok parsed
  refine ⟨tokens ++ [.eof location], ?_⟩
  rw [Feed.tokenize_eq_batchOf, read, Feed.batchOf, Feed.batch_append]
  rfl

/-- A lexical error that ends parsing is the first of the source. -/
theorem tokenize_of_lexical {budget : Nat} {source : String} {error : LexicalError}
    (failed : parseWithin budget source = .error (.lexical error)) :
    tokenize source = .error error := by
  rw [Feed.tokenize_eq_batchOf]
  rcases parse_error failed with
    ⟨fault, read, same⟩ | ⟨tokens, stop, read, -, -, token, fault, rfl, rfl⟩
  · cases same
    rw [read, Feed.batchOf]
  · rw [read, Feed.batchOf, Feed.batch_append]
    rfl

/-- A source that was parsed can be explored. -/
theorem Explorer.ofSource_of_parse {source : String} {program : Program}
    (parsed : parse source = .ok program) :
    ∃ tokens, tokenize source = .ok tokens ∧
      Explorer.ofSource source = .ok (.new source program tokens) := by
  obtain ⟨tokens, listed⟩ := tokenize_of_parse parsed
  refine ⟨tokens, listed, ?_⟩
  rw [Explorer.ofSource, parsed]
  simp only [listed]

section Command

open CommandLine

variable (browse : Explorer → Browsing)

/-- Where a source was parsed, the terminal alone decides what exploring it adds to the report. -/
theorem exploring_of_parse {source : String} {program : Program}
    (parsed : parse source = .ok program) (report : Report) :
    ∃ tokens, @Report.exploring Id _ browse source report =
      report.browsed (browse (.new source program tokens)) := by
  obtain ⟨tokens, -, explored⟩ := Explorer.ofSource_of_parse parsed
  refine ⟨tokens, ?_⟩
  rw [Report.exploring, explored]
  rfl

/-- The exit status of parsing a source, whatever is printed besides. -/
theorem code_parsing (file source : String) {switches : List Switch} (listing : String)
    (printsOnly : .explore ∉ switches) :
    (@Report.parsing Id _ browse file source switches listing).code = 0 ↔
      ∃ program, parse source = .ok program := by
  have stays : ¬switches.contains .explore = true := by simpa using printsOnly
  unfold Report.parsing
  cases parse source with
  | error error => simp [Report.failure]
  | ok program =>
    simp only [if_neg stays]
    exact ⟨fun _ => ⟨program, rfl⟩, fun _ => rfl⟩

/-- The exit status for a source, whatever is printed. -/
theorem code_ofSource (file source : String) {switches : List Switch}
    (printsOnly : .explore ∉ switches) :
    (@Report.ofSource Id _ browse file source switches).code = 0 ↔
      ∃ program, parse source = .ok program := by
  unfold Report.ofSource Listing.ofSource
  by_cases lists : switches.contains .tokens = true
  · rw [if_pos lists]
    cases listed : tokenize source with
    | ok tokens => exact code_parsing browse file source _ printsOnly
    | error error =>
      -- A source that cannot be listed cannot be parsed, so both sides fail.
      refine ⟨(fun zero => by cases zero), ?_⟩
      rintro ⟨program, parsed⟩
      obtain ⟨tokens, read⟩ := tokenize_of_parse parsed
      rw [listed] at read
      cases read
  · rw [if_neg lists]
    exact code_parsing browse file source "" printsOnly

end Command

open CommandLine in
/-- Parsing and listing agree on unreadable sources. A source that is parsed can be listed, so it
can be explored; a lexical error of the parser is the first of the source; a source that can be
listed fails to parse only by its grammar; and a command that does not start the explorer ends
with status zero exactly if the source of its file is parsed, with or without listing the tokens
or printing the tree. -/
theorem lexical_failures_agree (source : String) :
    (∀ program, parse source = .ok program →
      ∃ tokens, tokenize source = .ok tokens ∧
        Explorer.ofSource source = .ok (Explorer.new source program tokens)) ∧
    (∀ error, parse source = .error (.lexical error) → tokenize source = .error error) ∧
    (∀ tokens error, tokenize source = .ok tokens → parse source = .error error →
      ∃ breach, error = .grammatical breach) ∧
    (∀ (read : String → Except ReadFailure String) (browse : Explorer → Browsing)
        (arguments : List String) (file : String) (switches : List Switch),
      Request.ofArguments arguments = .run file switches → .explore ∉ switches →
        read file = .ok source →
          ((@respond Id _ read browse arguments).code = 0 ↔
            ∃ program, parse source = .ok program)) := by
  refine ⟨fun program => Explorer.ofSource_of_parse, fun error => tokenize_of_lexical, ?_, ?_⟩
  · intro tokens error listed failed
    cases error with
    | grammatical breach => exact ⟨breach, rfl⟩
    | lexical error =>
      rw [tokenize_of_lexical failed] at listed
      cases listed
  · intro read browse arguments file switches asked printsOnly readable
    have report : @respond Id _ read browse arguments =
        @Report.ofSource Id _ browse file source switches := by
      unfold respond
      rw [asked]
      show @Report.ofFile Id _ browse file switches (read file) = _
      rw [readable]
      rfl
    rw [report]
    exact code_ofSource browse file source printsOnly

open CommandLine in
/-- Listing the tokens of a file with the source `int x;` and printing its tree ends well, also
where there is no terminal. -/
theorem lexical_failures_agree_listing :
    (@respond Id _ (fun _ => .ok "int x;") (fun _ => .noTerminal "no terminal")
      ["a.cpp", "--tokens", "--tree"]).code = 0 := by
  have asked : Request.ofArguments ["a.cpp", "--tokens", "--tree"] =
      .run "a.cpp" [.tokens, .tree] := by
    cbv
  have parsed : ∃ program, parse "int x;" = .ok program := ⟨_, by cbv⟩
  obtain ⟨-, -, -, status⟩ := lexical_failures_agree "int x;"
  exact (status _ _ _ _ _ asked (by decide) rfl).mpr parsed

end Cpplet

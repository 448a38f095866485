import Cpplet.CommandLine.Arguments
import Cpplet.Diagnostic
import Cpplet.Explorer.State
import Cpplet.Listing

/-!
# What the command prints

The command reads its file, lists the tokens where that is asked for, parses the source, says
what it found and prints the tree where that is asked for. The first error ends it: an error of
the source is shown with its line and caret, in red where a terminal has colours. Results go to
the output and everything else to the error output.

Where the explorer is asked for, it begins with what the source comes to when it is read once more.
The terminal is not part of this: whoever owns one passes its keys to `Explorer.press`, shows what
`Explorer.draw` draws, and says how that ended.
-/

namespace Cpplet.CommandLine

/-- What a run of the command leaves behind. -/
structure Report where
  /-- The exit status. -/
  code : Nat
  /-- What it prints. -/
  output : String
  /-- What it prints on the error output. -/
  errors : String
deriving DecidableEq, Repr

/-- Why a file cannot be read. -/
inductive ReadFailure where
  /-- There is no such file. -/
  | notFound
  /-- A part of the path before the last is no directory. -/
  | notDirectory
  /-- The path names a directory. -/
  | isDirectory
  /-- A part of the path is longer than a name may be. -/
  | nameTooLong
  /-- The bytes are no text. -/
  | notText
  /-- Another reason of the system. -/
  | other (reason : String)
deriving DecidableEq, Repr

/-- The wording of a failure. -/
def ReadFailure.message : ReadFailure → String
  | .notFound => "No such file or directory (os error 2)"
  | .notDirectory => "Not a directory (os error 20)"
  | .isDirectory => "Is a directory (os error 21)"
  | .nameTooLong => "File name too long (os error 36)"
  | .notText => "stream did not contain valid UTF-8"
  | .other reason => reason

/-- The text that bytes encode. -/
def decode (bytes : ByteArray) : Except ReadFailure String :=
  match String.fromUTF8? bytes with
  | some source => .ok source
  | none => .error .notText

/-- How it ends to show the explorer in a terminal. -/
inductive Browsing where
  /-- The explorer was left. -/
  | left
  /-- The terminal failed while the explorer was shown, and could be given back. -/
  | interrupted (reason : String)
  /-- The terminal could not be prepared or not be given back. -/
  | noTerminal (reason : String)
deriving DecidableEq, Repr

namespace Report

/-- The sequence that begins red text. -/
def red : String := "\x1b[38;5;9m"

/-- A line in red. -/
def redLine (line : String) : String := red ++ line ++ "\x1b[39m\n"

/-- A line in red and bold. -/
def boldLine (line : String) : String := red ++ "\x1b[1m" ++ line ++ "\x1b[0m\n"

/-- A diagnostic for a terminal: the line of the source, the caret and the message. -/
def colored (diagnostic : Diagnostic) (source : String) : String :=
  match Text.stringLines (diagnostic.render source) with
  | line :: caret :: message =>
    "\n" ++ line ++ "\n" ++ boldLine caret ++ String.join (message.map redLine)
  | message => String.join (message.map redLine)

/-- The report of a source that fails, behind what was printed before. -/
def failure (source : String) (error : SourceError) (output errors : String) : Report :=
  ⟨1, output, errors ++ colored error.diagnostic source⟩

/-- What was found in a source. -/
def summary (program : Program) : String :=
  let imports := program.includes.length + program.usings.length
  let declarations := program.before.length + program.after.length
  let entry := if program.entry.isSome then "main function present" else "no main function"
  "Parsed successfully. Found " ++ Decimal.natText imports ++ " import(s), " ++
    Decimal.natText declarations ++ " global declaration node(s), " ++ entry ++ ".\n"

/-- A report with what the terminal comes to behind it. -/
def browsed (report : Report) : Browsing → Report
  | .left => report
  | .interrupted reason => { report with errors := report.errors ++ "Error: " ++ reason ++ "\n" }
  | .noTerminal reason =>
    { report with code := 1, errors := report.errors ++ "Error: " ++ reason ++ "\n" }

section Monadic

variable {m : Type → Type} [Monad m] (browse : Explorer → m Browsing)

/-- The report of exploring a source in some terminal, behind what was reported before. -/
def exploring (source : String) (report : Report) : m Report := do
  match Explorer.ofSource source with
  | .error error => return failure source error report.output report.errors
  | .ok explorer => return report.browsed (← browse explorer)

/-- The report of parsing a source, behind the tokens that were listed before. -/
def parsing (file source : String) (switches : List Switch) (listing : String) : m Report :=
  let errors := "Parsing " ++ file ++ "...\n"
  match parse source with
  | .error error => return failure source error listing errors
  | .ok program =>
    let tree := if switches.contains .tree then program.outline.render else ""
    let report : Report := ⟨0, listing ++ tree, errors ++ summary program⟩
    if switches.contains .explore then exploring browse source report else return report

/-- The report of a source. -/
def ofSource (file source : String) (switches : List Switch) : m Report :=
  if switches.contains .tokens then
    match Listing.ofSource source with
    | .error error => return failure source (.lexical error) "" ""
    | .ok groups => parsing browse file source switches (Listing.render groups)
  else parsing browse file source switches ""

/-- The report of a file, given what reading it came to. -/
def ofFile (file : String) (switches : List Switch) : Except ReadFailure String → m Report
  | .ok source => ofSource browse file source switches
  | .error failure =>
    return ⟨1, "", "Error: Cannot read '" ++ file ++ "': " ++ failure.message ++ "\n"⟩

end Monadic

/-- The report of a request that needs no file. -/
def ofRefusal (refusal : Refusal) : Report := ⟨2, "", refusal.message⟩

end Report

/-- Answer a command line, reading the file and showing the explorer in some way. -/
def respond {m : Type → Type} [Monad m] (read : String → m (Except ReadFailure String))
    (browse : Explorer → m Browsing) (arguments : List String) : m Report := do
  match Request.ofArguments arguments with
  | .help => return ⟨0, helpText, ""⟩
  | .version => return ⟨0, versionText, ""⟩
  | .refuse refusal => return Report.ofRefusal refusal
  | .run file switches => Report.ofFile browse file switches (← read file)

end Cpplet.CommandLine

import Cpplet.Text.Similarity

/-!
# Arguments of the command line

The command takes one file and switches that are written with two dashes; some have a letter that
is written with one dash, and letters may share a dash. Behind `--` every argument is a file.
Arguments are read from left to right and the first one that is wrong, or that asks for help or
for the version, decides. Only the next switch or the end notices that the name of the file is
empty, and only the end that the file is missing.

A refusal is shown with a line of usage: the general form, the form for the arguments that were
given, or the choice between all arguments where a switch with a value follows another switch.
-/

namespace Cpplet.CommandLine

/-- The name of the command. -/
def commandName : String := "minicpp"

/-- The switches of the command. -/
inductive Switch where
  /-- List the tokens. -/
  | tokens
  /-- Print the syntax tree. -/
  | tree
  /-- Start the explorer. -/
  | explore
  /-- Print the help text. -/
  | help
  /-- Print the version. -/
  | version
deriving DecidableEq, Repr

namespace Switch

/-- Every switch. -/
def all : List Switch := [.tokens, .tree, .explore, .help, .version]

/-- The name behind two dashes. -/
def name : Switch → String
  | .tokens => "tokens"
  | .tree => "tree"
  | .explore => "explore"
  | .help => "help"
  | .version => "version"

/-- The letter behind one dash. -/
def letter? : Switch → Option Char
  | .explore => some 'e'
  | .help => some 'h'
  | .version => some 'V'
  | _ => none

/-- The switch as it is written. -/
def spelling (switch : Switch) : String := "--" ++ switch.name

/-- The switch with a name. -/
def ofName? (name : String) : Option Switch := all.find? (·.name = name)

/-- The switch with a letter. -/
def ofLetter? (letter : Char) : Option Switch := all.find? (·.letter? = some letter)

end Switch

/-- The switches about the work, which the usage lists as alternatives to the file. -/
def Switch.isForWork : Switch → Bool
  | .tokens | .tree | .explore => true
  | .help | .version => false

/-- The forms in which the usage is shown. -/
inductive Usage where
  /-- Any switches and the file. -/
  | general
  /-- Certain switches and the file. -/
  | exactly (switches : List Switch)
  /-- Certain switches and one of all arguments for the work. -/
  | oneOf (switches : List Switch)
deriving DecidableEq, Repr

namespace Usage

/-- What stands behind the name of the command. -/
def parts : Usage → List String
  | .general => ["[OPTIONS]", "<FILE>"]
  | .exactly switches => switches.map Switch.spelling ++ ["<FILE>"]
  | .oneOf switches =>
    let choices := "FILE" :: (Switch.all.filter Switch.isForWork).map Switch.spelling
    switches.map Switch.spelling ++ ["<" ++ String.intercalate "|" choices ++ ">"]

/-- The line of usage. -/
def text (usage : Usage) : String :=
  "Usage: " ++ String.intercalate " " (commandName :: usage.parts) ++ "\n\n"

end Usage

/-- Why the arguments are refused. -/
inductive Refusal where
  /-- No file is named. -/
  | fileMissing (given : List Switch)
  /-- The name of the file is empty. -/
  | fileEmpty
  /-- An argument is unknown or one too many, with a hint where there is one. -/
  | unexpected (argument : String) (hint : Option String) (usage : Usage)
  /-- A switch is given twice. -/
  | repeated (switch : Switch)
  /-- A switch is given a value. -/
  | valueUnwanted (switch : Switch) (value : String) (usage : Usage)
deriving DecidableEq, Repr

namespace Refusal

/-- What every refusal ends with. -/
def footer : String := "For more information, try '--help'.\n"

/-- The wording of a refusal. -/
def message : Refusal → String
  | .fileMissing given =>
    "error: the following required arguments were not provided:\n  <FILE>\n\n" ++
      (Usage.exactly given).text ++ footer
  | .fileEmpty =>
    "error: a value is required for '<FILE>' but none was supplied\n\n" ++ footer
  | .unexpected argument hint usage =>
    let tip := match hint with
      | some hint => "  tip: " ++ hint ++ "\n\n"
      | none => ""
    "error: unexpected argument '" ++ argument ++ "' found\n\n" ++ tip ++ usage.text ++ footer
  | .repeated switch =>
    "error: the argument '" ++ switch.spelling ++ "' cannot be used multiple times\n\n" ++
      Usage.general.text ++ footer
  | .valueUnwanted switch value usage =>
    "error: unexpected value '" ++ value ++ "' for '" ++ switch.spelling ++
      "' found; no more were expected\n\n" ++ usage.text ++ footer

end Refusal

/-- What the arguments read so far ask for. -/
structure Reading where
  /-- The file, once it is named. -/
  file : Option String
  /-- The switches given, in order. -/
  given : List Switch
deriving DecidableEq, Repr

/-- What a whole command line asks for. -/
inductive Request where
  /-- Print the help text. -/
  | help
  /-- Print the version. -/
  | version
  /-- Say why the arguments are refused. -/
  | refuse (refusal : Refusal)
  /-- Work on a file. -/
  | run (file : String) (switches : List Switch)
deriving DecidableEq, Repr

/-- A step of reading arguments: either it goes on, or the request is settled. -/
abbrev Step := Except Request Reading

/-- How to pass an argument that looks like a switch as a file. -/
def asFileHint (argument : String) : String :=
  "to pass '" ++ argument ++ "' as a value, use '-- " ++ argument ++ "'"

namespace Reading

/-- Notice that the name of the file is empty. -/
def checkFile (reading : Reading) : Step :=
  if reading.file = some "" then .error (.refuse .fileEmpty) else .ok reading

/-- Take a file. -/
def takeFile (reading : Reading) (file : String) : Step :=
  match reading.file with
  | some _ => .error (.refuse (.unexpected file none .general))
  | none => .ok { reading with file := some file }

/-- Take a switch. -/
def takeSwitch (reading : Reading) (switch : Switch) : Step := do
  let reading ← reading.checkFile
  match switch with
  | .help => .error .help
  | .version => .error .version
  | _ =>
    if reading.given.contains switch then .error (.refuse (.repeated switch))
    else .ok { reading with given := reading.given ++ [switch] }

/-- Take letters that share a dash. -/
def takeLetters (reading : Reading) : List Char → Step
  | [] => .ok reading
  | letter :: letters =>
    match Switch.ofLetter? letter with
    | none =>
      let argument := String.ofList ['-', letter]
      .error (.refuse (.unexpected argument (some (asFileHint argument)) .general))
    | some switch =>
      match reading.takeSwitch switch with
      | .ok reading => reading.takeLetters letters
      | .error request => .error request

/-- The usage for the arguments given, together with switches that may be meant. -/
def usage (reading : Reading) (meant : List Switch) : Usage :=
  let named := reading.given ++ meant.filter (!reading.given.contains ·)
  if named.isEmpty && reading.file.isNone then .general else .exactly named

/-- The usage when a switch is given a value. -/
def usageOfValue (reading : Reading) (switch : Switch) : Usage :=
  if reading.given.isEmpty then .exactly [switch]
  else .oneOf ([switch].filter (!·.isForWork))

/-- Refuse an unknown name behind two dashes, with the switch that it is most like or else with
the way to pass it as a file. -/
def refuseName (reading : Reading) (name : String) : Refusal :=
  let argument := "--" ++ name
  match (Text.mostAlike? name (Switch.all.map Switch.name)).bind Switch.ofName? with
  | some switch =>
    let hint := "a similar argument exists: '" ++ switch.spelling ++ "'"
    .unexpected argument (some hint) (reading.usage [switch])
  | none => .unexpected argument (some (asFileHint argument)) (reading.usage [])

/-- Take a name behind two dashes, with a value where there is one. -/
def takeName (reading : Reading) (name : String) (value : Option String) : Step :=
  match Switch.ofName? name, value with
  | some switch, none => reading.takeSwitch switch
  | some switch, some value =>
    .error (.refuse (.valueUnwanted switch value (reading.usageOfValue switch)))
  | none, _ => .error (.refuse (reading.refuseName name))

/-- Take one argument. -/
def take (reading : Reading) (argument : String) : Step :=
  match argument.toList with
  | '-' :: '-' :: name =>
    let value := name.dropWhile (· ≠ '=')
    reading.takeName (String.ofList (name.takeWhile (· ≠ '=')))
      (if value.isEmpty then none else some (String.ofList (value.drop 1)))
  | '-' :: letter :: letters => reading.takeLetters (letter :: letters)
  | _ => reading.takeFile argument

/-- Take arguments from left to right, with `--` seen or not. -/
def takeAll (reading : Reading) (onlyFiles : Bool) : List String → Step
  | [] => .ok reading
  | argument :: arguments =>
    if !onlyFiles && argument = "--" then reading.takeAll true arguments
    else
      match if onlyFiles then reading.takeFile argument else reading.take argument with
      | .ok reading => reading.takeAll onlyFiles arguments
      | .error request => .error request

end Reading

/-- What a command line asks for. The rules of this module, the wording of refusals among them, are
taken on trust of clap, which reads the command line. -/
def Request.ofArguments (arguments : List String) : Request :=
  match Reading.takeAll ⟨none, []⟩ false arguments >>= Reading.checkFile with
  | .error request => request
  | .ok ⟨some file, given⟩ => .run file given
  | .ok ⟨none, given⟩ => .refuse (.fileMissing given)

/-- The version text. -/
def versionText : String := commandName ++ " 0.1.0\n"

/-- The help text. -/
def helpText : String :=
  "Lexer and recursive-descent parser for a small C++ subset, with an AST explorer\n\n" ++
  "Usage: " ++ commandName ++ " [OPTIONS] <FILE>\n\n" ++
  "Arguments:\n" ++
  "  <FILE>  The source file to parse\n\n" ++
  "Options:\n" ++
  "      --tokens   Print the token stream grouped by source line\n" ++
  "      --tree     Print the syntax tree\n" ++
  "  -e, --explore  Browse the syntax tree and tokens next to the source\n" ++
  "  -h, --help     Print help\n" ++
  "  -V, --version  Print version\n"

end Cpplet.CommandLine

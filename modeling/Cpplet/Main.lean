import Cpplet.CommandLine.Report

/-!
# The command

The command answers its arguments as `CommandLine.respond` says, reading the file that they name. It
owns no terminal, so the explorer is left as soon as it is shown.
-/

namespace Cpplet.CommandLine

/-- Whether a code of the system is a number, which may have been negated. -/
def isCode (number code : UInt32) : Bool := code = number || code + number = 0

/-- The failure to use a directory as a file, or a file as a directory. -/
def wrongType (code : UInt32) : ReadFailure :=
  if isCode 21 code then .isDirectory else .notDirectory

/-- A failure of the system as a reason. -/
def failureOf : IO.Error → ReadFailure
  | .noFileOrDirectory .. => .notFound
  | .inappropriateType _ code _ => wrongType code
  | error@(.invalidArgument _ code _) =>
    if isCode 36 code then .nameTooLong else .other (toString error)
  | error => .other (toString error)

/-- Read a file as text. -/
def readSource (file : String) : IO (Except ReadFailure String) := do
  try
    return decode (← IO.FS.readBinFile file)
  catch error => return .error (failureOf error)

end Cpplet.CommandLine

open Cpplet.CommandLine in
/-- Answer a command line. -/
def main (arguments : List String) : IO UInt32 := do
  let report ← respond readSource (fun _ => return .left) arguments
  IO.print report.output
  IO.eprint report.errors
  return report.code.toUInt32

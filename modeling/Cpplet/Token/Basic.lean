import Cpplet.Location
import Cpplet.Token.Kind
import Cpplet.Text.Quoted
import Cpplet.Decimal.Numeral

/-!
# Tokens

A token has a kind, a value and the place of its first character. The value is the content of a
name or constant and the spelling of a reserved word or mark; the end of the file has none. The
grammar looks at kinds, and at the value of a name only to recognise the entry point, so the
place of a token never changes how a program is read.

Three texts belong to a token: `Token.text` shows its value as a source would, `Token.describe`
names it in a message and `Token.label` in a listing.
-/

namespace Cpplet

open Decimal (Binary64 intDigits natText)

/-- The content of a token. -/
inductive Value where
  /-- The value of an integer constant. -/
  | integer (value : Int)
  /-- The value of a floating-point constant. -/
  | float (value : Binary64)
  /-- The code of a character constant. -/
  | char (code : Nat)
  /-- The text of a string constant, escapes decoded. -/
  | string (text : String)
  /-- The text of a name. -/
  | name (text : String)
  /-- The spelling of a reserved word or mark. -/
  | spelling (text : String)
deriving DecidableEq, Repr

/-- A value as a source would show it; a character constant shows its code. -/
def Value.text : Value → String
  | .integer value => String.ofList (intDigits value)
  | .float value => value.text
  | .char code => natText code
  | .string text => Text.quoted text
  | .name text => text
  | .spelling text => text

/-- One token of a source. -/
structure Token where
  /-- The lexical category. -/
  kind : Kind
  /-- The content, or the spelling where that is fixed. -/
  value : Option Value
  /-- The place of the first character. -/
  location : Location
deriving DecidableEq, Repr

namespace Token

/-- The token of a kind whose spelling is fixed. -/
def fixed (kind : Kind) (location : Location) : Token :=
  ⟨kind, kind.spelling?.map .spelling, location⟩

/-- The end of the file. -/
def eof (location : Location) : Token := ⟨.eof, none, location⟩

/-- The text of a name. -/
def name? (token : Token) : Option String :=
  match token.value with
  | some (.name text) => some text
  | _ => none

/-- The value as a source would show it, or the category where there is no value. -/
def text (token : Token) : String :=
  match token.value with
  | some value => value.text
  | none => token.kind.category

/-- Whether a character is a control: these are shown by their code. -/
def isControl (c : Char) : Bool := c.toNat < 0x20 || (0x7f ≤ c.toNat && c.toNat < 0xa0)

/-- A character code between single quotes, in at least two hexadecimal digits. -/
def describeCode (code : Nat) : String :=
  let digits := Text.hexDigits code
  String.ofList (['\'', '\\', 'x'] ++ List.replicate (2 - digits.length) '0' ++ digits ++ ['\''])

/-- A character between single quotes. A control, or a code of no character, is written as its
code. -/
def describeChar (code : Nat) : String :=
  if valid : code.isValidChar then
    let c := Char.ofNatAux code valid
    if isControl c then describeCode code else String.ofList ['\'', c, '\'']
  else describeCode code

/-- What messages call a token: names and constants with their content. -/
def describe (token : Token) : String :=
  match token.kind, token.value with
  | .name, some value => "identifier '" ++ value.text ++ "'"
  | .integer, some value => "integer constant " ++ value.text
  | .float, some value => "float constant " ++ value.text
  | .char, some (.char code) => "char constant " ++ describeChar code
  | .string, some value => "string constant " ++ value.text
  | kind, _ => kind.describe

/-- What listings call a token: the category, with the text of a name or constant. -/
def label (token : Token) : String :=
  if token.kind.hasContent then token.kind.category ++ "(" ++ token.text ++ ")"
  else token.kind.category

end Token

end Cpplet

import Cpplet.Text.Invisible

/-!
# Quoted text

A text is shown between double quotes. A double quote and a backslash are written behind a
backslash, the four controls with a short name by that name, and every other character that is
not seen as itself by its code point in hexadecimal digits. A single quote stays as it is.
-/

namespace Cpplet.Text

/-- Hexadecimal digits of a number, lower case and without leading zeros. -/
def hexDigits (n : Nat) : List Char := Nat.toDigits 16 n

/-- The controls that have a short name, with the name. -/
def shortName? : Char → Option Char
  | '\x00' => some '0'
  | '\t' => some 't'
  | '\n' => some 'n'
  | '\r' => some 'r'
  | '"' => some '"'
  | '\\' => some '\\'
  | _ => none

/-- A character inside quoted text. -/
def escaped (c : Char) : List Char :=
  match shortName? c with
  | some name => ['\\', name]
  | none =>
    if isInvisible c then ['\\', 'u', '\x7b'] ++ hexDigits c.toNat ++ ['\x7d'] else [c]

/-- A text between double quotes, each character as `escaped` writes it. -/
def quotedChars (text : List Char) : List Char := '"' :: text.flatMap escaped ++ ['"']

/-- A string between double quotes. -/
def quoted (text : String) : String := String.ofList (quotedChars text.toList)

end Cpplet.Text

import Cpplet.Lexeme.Basic

/-!
# Numeric constants

A number is a run of digits, then possibly a point with a run of digits that may be empty, then
possibly an exponent: the letter `e`, a sign that may be missing, and digits that may not. A
number with a point or an exponent is a floating-point constant and takes one `f` behind it; any
other number is an integer constant, whose value has to fit a signed word of 64 bits. An exponent
without digits is an error, since the letter has been taken by then.

`Numeral.of` only divides the text into these parts; what they denote is decided afterwards. The
characters of a floating-point constant are handed to the conversion of texts
(`Binary64.ofText?`), which divides them again and takes more than what a constant may look like.
-/

namespace Cpplet

open Decimal (Binary64)

/-- Decimal digits. -/
def isDigit (c : Char) : Bool := '0' ≤ c && c ≤ '9'

/-- The number that digits denote. -/
def digitsValue (digits : List Char) : Nat :=
  digits.foldl (fun value digit => 10 * value + (digit.toNat - '0'.toNat)) 0

/-- The largest signed word of 64 bits. -/
def largestInteger : Nat := 9223372036854775807

/-- An exponent as it is written. -/
structure Exponent where
  /-- The letter, small or capital. -/
  letter : Char
  /-- The sign, where there is one. -/
  sign : List Char
  /-- The digits. -/
  digits : List Char
deriving DecidableEq, Repr

namespace Exponent

/-- The letters that begin an exponent. -/
def isLetter (c : Char) : Bool := c = 'e' || c = 'E'

/-- The signs of an exponent. -/
def isSign (c : Char) : Bool := c = '+' || c = '-'

/-- The exponent at the front of a text. -/
def of? (input : List Char) : Option Exponent :=
  match input with
  | [] => none
  | letter :: rest =>
    if isLetter letter then
      let sign := (rest.take 1).filter isSign
      some ⟨letter, sign, (rest.drop sign.length).takeWhile isDigit⟩
    else none

/-- The exponent behind its letter. -/
def tail (exponent : Exponent) : List Char := exponent.sign ++ exponent.digits

/-- The power of ten. -/
def value (exponent : Exponent) : Int :=
  if exponent.sign = ['-'] then -(digitsValue exponent.digits : Int)
  else digitsValue exponent.digits

end Exponent

/-- The parts of a number. -/
structure Numeral where
  /-- The digits before the point. -/
  whole : List Char
  /-- The digits behind the point, where there is a point. -/
  fraction : Option (List Char)
  /-- The exponent, where there is one. -/
  exponent : Option Exponent
deriving DecidableEq, Repr

namespace Numeral

/-- The point and the digits behind it, at the front of a text. -/
def fractionOf? : List Char → Option (List Char)
  | '.' :: rest => some (rest.takeWhile isDigit)
  | _ => none

/-- A fraction with its point. -/
def fractionText : Option (List Char) → List Char
  | some digits => '.' :: digits
  | none => []

/-- The parts of the number at the front of a text. -/
def of (input : List Char) : Numeral :=
  let whole := input.takeWhile isDigit
  let behindWhole := input.drop whole.length
  let fraction := fractionOf? behindWhole
  let exponent := Exponent.of? (behindWhole.drop (fractionText fraction).length)
  ⟨whole, fraction, exponent⟩

/-- The characters of the number. -/
def text (numeral : Numeral) : List Char :=
  numeral.whole ++ fractionText numeral.fraction ++
    match numeral.exponent with
    | some exponent => exponent.letter :: exponent.tail
    | none => []

/-- The characters of the number with a small exponent letter, as messages show them. -/
def shown (numeral : Numeral) : List Char :=
  numeral.whole ++ fractionText numeral.fraction ++
    match numeral.exponent with
    | some exponent => 'e' :: exponent.tail
    | none => []

/-- Whether the number is a floating-point constant. -/
def isFloat (numeral : Numeral) : Bool := numeral.fraction.isSome || numeral.exponent.isSome

/-- Whether an exponent letter stands without digits. -/
def lacksDigits (numeral : Numeral) : Bool :=
  match numeral.exponent with
  | some exponent => exponent.digits.isEmpty
  | none => false

/-- The nearest floating-point number. -/
def toBinary64 (numeral : Numeral) : Binary64 :=
  let fraction := numeral.fraction.getD []
  let exponent := (numeral.exponent.map Exponent.value).getD 0
  Binary64.ofDecimal (digitsValue (numeral.whole ++ fraction)) (exponent - fraction.length)

/-- The parts of the number that a whole text is, which may begin or end with its point and may
not lack the digits of its exponent. -/
def ofText? (text : List Char) : Option Numeral :=
  let numeral := of text
  if numeral.text = text ∧ numeral.whole ++ numeral.fraction.getD [] ≠ [] ∧
      numeral.lacksDigits = false then some numeral
  else none

end Numeral

namespace Decimal.Binary64

/-- The positive infinite number. -/
def infinity : Binary64 := ⟨infinityBits.toUInt64⟩

/-- What is no number. -/
def notANumber : Binary64 := ⟨(infinityBits + twoPow 51).toUInt64⟩

/-- The number with the other sign. -/
def negate (x : Binary64) : Binary64 := ⟨x.bits ^^^ (twoPow 63).toUInt64⟩

/-- What a text without a sign denotes: a number in digits, or a word in letters of either case. -/
def ofUnsignedText? (text : List Char) : Option Binary64 :=
  match text.map Char.toLower with
  | ['i', 'n', 'f'] => some infinity
  | ['i', 'n', 'f', 'i', 'n', 'i', 't', 'y'] => some infinity
  | ['n', 'a', 'n'] => some notANumber
  | _ => (Numeral.ofText? text).map Numeral.toBinary64

/-- The floating-point number that a text denotes, if it denotes one. -/
def ofText? : List Char → Option Binary64
  | '-' :: text => (ofUnsignedText? text).map negate
  | '+' :: text => ofUnsignedText? text
  | text => ofUnsignedText? text

end Decimal.Binary64

namespace Lexeme

/-- The letter that may follow a floating-point constant. -/
def isFloatSuffix (c : Char) : Bool := c = 'f' || c = 'F'

/-- The number at the front of a text that begins with a digit. -/
def number (input : List Char) : Except Misfit Lexeme :=
  let numeral := Numeral.of input
  let text := numeral.text
  if numeral.lacksDigits then .error ⟨.exponentWithoutDigits numeral.shown, [], text⟩
  else if numeral.isFloat then
    let suffix := ((input.drop text.length).take 1).filter isFloatSuffix
    match Binary64.ofText? numeral.shown with
    | some value => .ok ⟨text ++ suffix, .float, some (.float value)⟩
    | none => .error ⟨.invalidFloat numeral.shown, [], text ++ suffix⟩
  else if digitsValue numeral.whole ≤ largestInteger then
    .ok ⟨text, .integer, some (.integer (digitsValue numeral.whole))⟩
  else .error ⟨.integerTooLarge numeral.whole, [], text⟩

end Lexeme

end Cpplet

import Cpplet.Decimal.Shortest

/-!
# Floating-point numbers as text

A number is written with the fewest digits that read back as itself and always looks like a
floating-point number: in positional notation it has a point with a digit on both sides.
Numbers below `10 ^ -4` or from `10 ^ 16` on have one digit before the point and an exponent,
without a point when one digit is all there is. A zero keeps its sign.
-/

namespace Cpplet.Decimal

/-- Decimal digits of a natural number. -/
def natDigits (n : Nat) : List Char := Nat.toDigits 10 n

/-- A natural number as text. -/
def natText (n : Nat) : String := String.ofList (natDigits n)

/-- A whole number in decimal digits, behind a minus when it is negative. -/
def intDigits : Int → List Char
  | .ofNat n => natDigits n
  | .negSucc n => '-' :: natDigits (n + 1)

namespace Scaled

/-- How many of the digits stand before the point: the value lies below this power of ten and
not below the previous one. -/
def point (decimal : Scaled) : Int := (natDigits decimal.digits).length + decimal.exponent

/-- Positional notation, with a digit on both sides of the point. -/
def positional (decimal : Scaled) : List Char :=
  let digits := natDigits decimal.digits
  let point := decimal.point
  if point ≤ 0 then ['0', '.'] ++ List.replicate (-point).toNat '0' ++ digits
  else if digits.length ≤ point.toNat then
    digits ++ List.replicate (point.toNat - digits.length) '0' ++ ['.', '0']
  else digits.take point.toNat ++ '.' :: digits.drop point.toNat

/-- Scientific notation, one digit before the point. -/
def scientific (decimal : Scaled) : List Char :=
  let digits := natDigits decimal.digits
  let fraction := if digits.length = 1 then [] else '.' :: digits.drop 1
  digits.take 1 ++ fraction ++ 'e' :: intDigits (decimal.point - 1)

/-- Positional from `10 ^ -4` up to `10 ^ 16`, scientific elsewhere. -/
def chars (decimal : Scaled) : List Char :=
  if -3 ≤ decimal.point ∧ decimal.point ≤ 16 then decimal.positional else decimal.scientific

end Scaled

namespace Binary64

/-- The text of a number without its sign. -/
def magnitude (x : Binary64) : List Char :=
  if x.special then ['i', 'n', 'f']
  else if x.significand = 0 then ['0', '.', '0']
  else x.shortest.chars

/-- The text of a number. What is no number has no sign. -/
def text (x : Binary64) : String :=
  if x.special ∧ x.fraction ≠ 0 then "NaN"
  else String.ofList (if x.negative then '-' :: x.magnitude else x.magnitude)

end Binary64

end Cpplet.Decimal

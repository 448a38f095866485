/-!
# Binary floating-point numbers of 64 bits

A number is its 64 bits: a sign, eleven bits of exponent and 52 bits of fraction. A finite
number is `significand * 2 ^ scale`, where all numbers of one exponent share the scale and the
numbers of the lowest two exponents share the lowest one.

`ofDecimal` takes a decimal to the nearest number, a half to the one with the even significand.
What lies half a unit or more above the largest finite number becomes infinite, and what lies
half the smallest number or less above zero becomes zero. The bits of the positive finite
numbers count upwards with the numbers, so a significand that rounds up to the next power of two
carries into the exponent by itself. Arithmetic takes the exact result to the nearest number in
the same way.
-/

namespace Cpplet.Decimal

/-- A power of two. -/
def twoPow (exponent : Nat) : Nat := Nat.pow 2 exponent

/-- A power of ten. -/
def tenPow (exponent : Nat) : Nat := Nat.pow 10 exponent

/-- A floating-point number by its bits. -/
structure Binary64 where
  /-- Sign, exponent and fraction, from the highest bit down. -/
  bits : UInt64
deriving DecidableEq, Repr, Inhabited

namespace Binary64

/-- The scale of the smallest numbers. -/
def lowestScale : Int := -1074

/-- Whether the sign bit is set. -/
def negative (x : Binary64) : Bool := x.bits.toNat / twoPow 63 = 1

/-- The eleven bits of exponent. -/
def exponentField (x : Binary64) : Nat := x.bits.toNat / twoPow 52 % twoPow 11

/-- The 52 bits of fraction. -/
def fraction (x : Binary64) : Nat := x.bits.toNat % twoPow 52

/-- Whether the number is infinite or no number at all. -/
def special (x : Binary64) : Bool := x.exponentField = 2047

/-- The significand of a finite number, with its leading bit where it has one. -/
def significand (x : Binary64) : Nat :=
  if x.exponentField = 0 then x.fraction else twoPow 52 + x.fraction

/-- The scale of a finite number. -/
def scale (x : Binary64) : Int := lowestScale + (x.exponentField - 1 : Nat)

/-- The bits of the positive infinite number. -/
def infinityBits : Nat := 2047 * twoPow 52

/-- A quotient to the nearest whole number, a half to the even one. -/
def roundQuotient (numerator denominator : Nat) : Nat :=
  let quotient := numerator / denominator
  let twice := 2 * (numerator % denominator)
  if twice < denominator ∨ (twice = denominator ∧ quotient % 2 = 0) then quotient
  else quotient + 1

/-- The exponent of the highest power of two that a positive quotient reaches. -/
def log2Quotient (numerator denominator : Nat) : Int :=
  let guess : Int := (numerator.log2 : Int) - denominator.log2
  if denominator * twoPow guess.toNat ≤ numerator * twoPow (-guess).toNat then guess else guess - 1

/-- The number nearest to a positive quotient. -/
def ofQuotient (numerator denominator : Nat) : Binary64 :=
  let scale := max (log2Quotient numerator denominator - 52) lowestScale
  let significand :=
    roundQuotient (numerator * twoPow (-scale).toNat) (denominator * twoPow scale.toNat)
  let bits := (scale - lowestScale).toNat * twoPow 52 + significand
  ⟨(min bits infinityBits).toUInt64⟩

/-- The numerator of a positive finite number as a fraction. -/
def numerator (x : Binary64) : Nat := x.significand * twoPow x.scale.toNat

/-- The denominator of a positive finite number as a fraction. -/
def denominator (x : Binary64) : Nat := twoPow (-x.scale).toNat

/-- The number nearest to the sum of two positive finite numbers. -/
def add (x y : Binary64) : Binary64 :=
  ofQuotient (x.numerator * y.denominator + y.numerator * x.denominator)
    (x.denominator * y.denominator)

/-- The number nearest to a positive finite number divided by a positive whole one. -/
def divide (x : Binary64) (divisor : Nat) : Binary64 :=
  ofQuotient x.numerator (x.denominator * divisor)

/-- The number nearest to `digits * 10 ^ exponent`. An exponent that decides the answer by
itself is not raised to a power. -/
def ofDecimal (digits : Nat) (exponent : Int) : Binary64 :=
  if digits = 0 then ⟨0⟩
  else if 310 < exponent then ⟨infinityBits.toUInt64⟩
  else if exponent < -(400 + digits.log2 : Int) then ⟨0⟩
  else ofQuotient (digits * tenPow exponent.toNat) (tenPow (-exponent).toNat)

end Binary64

end Cpplet.Decimal

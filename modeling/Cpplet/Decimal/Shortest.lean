import Cpplet.Decimal.Binary64

/-!
# The shortest decimal of a floating-point number

The reals that round to a finite positive number form an interval around it, whose ends belong
to it exactly when the significand is even. Of the decimals in that interval the shortest lie on
the coarsest grid of multiples of a power of ten that reaches into it, and the number's two
neighbours on that grid are tried: of two in the interval the nearer is taken, and the upper one
when both are equally near.
-/

namespace Cpplet.Decimal

/-- A positive decimal: `digits * 10 ^ exponent`. -/
structure Scaled where
  /-- The digits as one whole number. -/
  digits : Nat
  /-- The power of ten of the last digit. -/
  exponent : Int
deriving DecidableEq, Repr

/-- The reals that round to one number, over a common denominator. -/
structure Interval where
  /-- Numerator of the lower end. -/
  low : Nat
  /-- Numerator of the number itself. -/
  value : Nat
  /-- Numerator of the upper end. -/
  high : Nat
  /-- The common denominator. -/
  denominator : Nat
  /-- Whether the ends round to the number too. -/
  closed : Bool

namespace Interval

/-- The interval of a finite positive number, in quarters of its last place. Below a power of
two the numbers lie twice as close, so the lower end is half as far away there. -/
def of (x : Binary64) : Interval :=
  let quarter := x.scale - 2
  let up := twoPow quarter.toNat
  let below := if x.fraction = 0 ∧ 1 < x.exponentField then 1 else 2
  { low := (4 * x.significand - below) * up
    value := 4 * x.significand * up
    high := (4 * x.significand + 2) * up
    denominator := twoPow (-quarter).toNat
    closed := x.significand % 2 = 0 }

/-- Whether a numerator over the common denominator, enlarged by a factor, lies inside. -/
def holds (interval : Interval) (factor numerator : Nat) : Bool :=
  if interval.closed then
    interval.low * factor ≤ numerator && numerator ≤ interval.high * factor
  else
    interval.low * factor < numerator && numerator < interval.high * factor

/-- The neighbour of the number on the grid of multiples of `10 ^ exponent`, if one is inside. -/
def onGrid (interval : Interval) (exponent : Int) : Option Scaled :=
  let factor := tenPow (-exponent).toNat
  let step := interval.denominator * tenPow exponent.toNat
  let value := interval.value * factor
  let below := value / step
  let lower := interval.holds factor (below * step)
  let upper := interval.holds factor ((below + 1) * step)
  if upper && (!lower || step ≤ 2 * (value % step)) then some ⟨below + 1, exponent⟩
  else if lower then some ⟨below, exponent⟩
  else none

/-- The first hit on grids from `10 ^ exponent` downwards, over a number of grids. -/
def search (interval : Interval) (exponent : Int) : Nat → Scaled
  | 0 => (interval.onGrid exponent).getD ⟨0, 0⟩
  | more + 1 => (interval.onGrid exponent).getD (interval.search (exponent - 1) more)

/-- An exponent whose power of ten lies above the whole interval. -/
def topExponent (interval : Interval) : Int :=
  (Binary64.log2Quotient interval.value interval.denominator * 1233).fdiv 4096 + 2

end Interval

/-- The shortest decimal that rounds to a finite positive number. Seventeen digits always
suffice, which is at most nineteen grids below the top one. -/
def Binary64.shortest (x : Binary64) : Scaled :=
  let interval := Interval.of x
  interval.search interval.topExponent 20

end Cpplet.Decimal

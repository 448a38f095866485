import Cpplet.Decimal.Binary64
import Mathlib.Algebra.Order.Field.Basic
import Mathlib.Algebra.Order.Field.Power
import Mathlib.Algebra.Order.Field.Rat
import Mathlib.Tactic.FieldSimp
import Mathlib.Tactic.Linarith
import Mathlib.Tactic.NormNum.Pow
import Mathlib.Tactic.Ring

/-!
# Rounding to the nearest number

A finite number has a rational value, and a rational that is not negative has a nearest number:
no finite number lies closer, and one that lies as close has another value only if the significand
of the nearest one is even. From half a unit above the largest finite number on, the infinite
number is taken for it. At most one number is nearest in this sense (`Nearest.unique`), and it is
the one that a quotient (`ofQuotient_nearest`) and a decimal (`ofDecimal_nearest`) are taken to.
Sums (`add_nearest`) and quotients (`divide_nearest`) of numbers are rounded in the same way.

The proofs count the values of positive numbers in units of the smallest one. The bits of the
numbers count upwards with these units, so that rounding is known by the middles between
neighbours: it comes to some bits or fewer exactly below the middle behind them, where the middle
itself belongs to the even side (`Rounds`).
-/

namespace Cpplet.Decimal

/-- A power with a whole exponent is a quotient of two powers, one of which is one. -/
theorem zpow_eq_div (base : ℚ) (exponent : Int) :
    base ^ exponent = base ^ exponent.toNat / base ^ (-exponent).toNat := by
  rcases le_total 0 exponent with positive | negative
  · have whole : (exponent.toNat : Int) = exponent := Int.toNat_of_nonneg positive
    have nothing : (-exponent).toNat = 0 := by omega
    rw [nothing, pow_zero, div_one, ← zpow_natCast, whole]
  · have whole : ((-exponent).toNat : Int) = -exponent := Int.toNat_of_nonneg (by omega)
    have nothing : exponent.toNat = 0 := by omega
    rw [nothing, pow_zero, one_div, ← zpow_natCast, whole, zpow_neg, inv_inv]

namespace Binary64

/-! ## What the nearest number is -/

/-- The value of a finite number. -/
def toRat (x : Binary64) : ℚ :=
  (if x.negative then -1 else 1) * x.significand * 2 ^ x.scale

/-- Half a unit above the largest finite number. -/
def overflow : ℚ := 2 ^ 1024 - 2 ^ 970

/-- A number is the nearest one to an amount, which is not negative. -/
structure Nearest (x : Binary64) (amount : ℚ) : Prop where
  /-- It has no sign. -/
  unsigned : x.negative = false
  /-- It is infinite for the amounts that lie too far above the finite numbers, and for no
  others. -/
  special : x.special = true ↔ overflow ≤ amount
  /-- If it is not finite, it is infinite. -/
  fraction : x.special = true → x.fraction = 0
  /-- No finite number lies closer. -/
  closest : x.special = false → ∀ y : Binary64, y.special = false →
    |x.toRat - amount| ≤ |y.toRat - amount|
  /-- Where one with another value lies as close, the nearest one is the even one. -/
  even : x.special = false → ∀ y : Binary64, y.special = false →
    |y.toRat - amount| = |x.toRat - amount| → y.toRat = x.toRat ∨ Even x.significand

/-! ## Units -/

/-- How many units of the smallest positive number make up one. -/
def unitsOfOne : ℚ := 2 ^ 1074

/-- One is positive in units. -/
theorem unitsOfOne_pos : 0 < unitsOfOne := pow_pos two_pos _

/-- The value of the positive number with these bits, in units of the smallest one. -/
def units (bits : Nat) : Nat :=
  if bits / 2 ^ 52 = 0 then bits % 2 ^ 52 else (2 ^ 52 + bits % 2 ^ 52) * 2 ^ (bits / 2 ^ 52 - 1)

/-- The numbers whose last place counts `2 ^ place` units are the multiples of it, up to the next
power of two and with it. -/
theorem units_grid (place count : Nat) (within : place = 0 ∨ 2 ^ 52 ≤ count)
    (top : count ≤ 2 ^ 53) : units (place * 2 ^ 52 + count) = count * 2 ^ place := by
  have fields : ∃ exponent fraction, fraction < 2 ^ 52 ∧
      place * 2 ^ 52 + count = exponent * 2 ^ 52 + fraction ∧
      (exponent = 0 ∧ place = 0 ∧ count = fraction ∨
        exponent = place + 1 ∧ count = 2 ^ 52 + fraction ∨
        exponent = place + 2 ∧ fraction = 0 ∧ count = 2 * 2 ^ 52) := by
    by_cases low : count < 2 ^ 52
    · exact ⟨0, count, low, by omega, by omega⟩
    · by_cases high : count < 2 ^ 53
      · exact ⟨place + 1, count - 2 ^ 52, by omega, by omega, by omega⟩
      · exact ⟨place + 2, 0, by omega, by omega, by omega⟩
  obtain ⟨exponent, fraction, small, same, split⟩ := fields
  have quotient : (exponent * 2 ^ 52 + fraction) / 2 ^ 52 = exponent := by omega
  have remainder : (exponent * 2 ^ 52 + fraction) % 2 ^ 52 = fraction := by omega
  rw [same, units, quotient, remainder]
  rcases split with ⟨rfl, rfl, rfl⟩ | ⟨rfl, rfl⟩ | ⟨rfl, rfl, rfl⟩
  · simp
  · simp
  · rw [if_neg (by omega), show place + 2 - 1 = place + 1 from rfl, Nat.pow_succ 2 place]
    ring

/-- The next number lies one last place above. -/
theorem units_succ (bits : Nat) :
    units (bits + 1) = units bits + 2 ^ (bits / 2 ^ 52 - 1) := by
  by_cases low : bits < 2 ^ 52
  · have here := units_grid 0 bits (.inl rfl) (by omega)
    have next := units_grid 0 (bits + 1) (.inl rfl) (by omega)
    rw [Nat.zero_mul, Nat.zero_add, pow_zero, Nat.mul_one] at here next
    rw [here, next, Nat.div_eq_of_lt low, Nat.zero_sub, pow_zero]
  · have split : bits = (bits / 2 ^ 52 - 1) * 2 ^ 52 + (2 ^ 52 + bits % 2 ^ 52) := by omega
    have here := units_grid (bits / 2 ^ 52 - 1) (2 ^ 52 + bits % 2 ^ 52) (.inr (by omega))
      (by omega)
    have next := units_grid (bits / 2 ^ 52 - 1) (2 ^ 52 + bits % 2 ^ 52 + 1) (.inr (by omega))
      (by omega)
    rw [← split] at here
    rw [← Nat.add_assoc, ← split] at next
    rw [here, next, Nat.succ_mul]

/-- Bits count upwards with their numbers. -/
theorem strictMono_units : StrictMono units := by
  refine strictMono_nat_of_lt_succ fun bits => ?_
  rw [units_succ]
  exact Nat.lt_add_of_pos_right (Nat.two_pow_pos _)

/-- Bits count upwards with the rational values of their numbers. -/
theorem units_lt {low high : Nat} (less : low < high) : (units low : ℚ) < units high :=
  Nat.cast_lt.mpr (strictMono_units less)

/-- Bits count upwards with the rational values of their numbers. -/
theorem units_le {low high : Nat} (less : low ≤ high) : (units low : ℚ) ≤ units high :=
  Nat.cast_le.mpr (strictMono_units.monotone less)

/-- A number is its bits without the sign, in units of the smallest number. -/
theorem toRat_eq_units (x : Binary64) :
    x.toRat = (if x.negative then -1 else 1) * units (x.bits.toNat % 2 ^ 63) / unitsOfOne := by
  have exponent : x.bits.toNat % 2 ^ 63 / 2 ^ 52 = x.exponentField := by
    simp only [exponentField, twoPow, Nat.pow_eq]
    omega
  have fraction : x.bits.toNat % 2 ^ 63 % 2 ^ 52 = x.fraction := by
    simp only [Binary64.fraction, twoPow, Nat.pow_eq]
    omega
  have value : (x.significand : ℚ) * 2 ^ x.scale =
      units (x.bits.toNat % 2 ^ 63) / unitsOfOne := by
    have lowest : (2 : ℚ) ^ x.scale = 2 ^ (x.exponentField - 1) / unitsOfOne := by
      rw [scale, lowestScale, zpow_add₀ two_ne_zero, zpow_natCast, zpow_neg, zpow_ofNat,
        mul_comm, div_eq_mul_inv, unitsOfOne]
    rw [units, exponent, fraction, lowest, significand]
    by_cases none : x.exponentField = 0
    · simp [none]
      ring
    · rw [if_neg none, if_neg none, twoPow, Nat.pow_eq]
      push_cast
      ring
  rw [toRat, mul_assoc, value, mul_div_assoc]

/-- The significand is even where the bits are. -/
theorem significand_mod_two (x : Binary64) : x.significand % 2 = x.bits.toNat % 2 := by
  simp only [significand, fraction, twoPow, Nat.pow_eq]
  split <;> omega

/-! ## Middles -/

/-- An amount of units is rounded to some bits or to fewer: it lies below the middle behind them,
or in the middle if they are even. -/
def Below (bits : Nat) (amount : ℚ) : Prop :=
  2 * amount < units bits + units (bits + 1) ∨
    2 * amount = units bits + units (bits + 1) ∧ bits % 2 = 0

/-- An amount of units is rounded to some bits. -/
def Rounds (bits : Nat) (amount : ℚ) : Prop := ∀ other, bits ≤ other ↔ Below other amount

/-- Of the two neighbours of an amount the middle between them decides. -/
theorem rounds_of_between {low bits : Nat} {amount : ℚ} (above : (units low : ℚ) ≤ amount)
    (under : amount < units (low + 1))
    (decided : bits = low ∧ Below low amount ∨ bits = low + 1 ∧ ¬ Below low amount) :
    Rounds bits amount := by
  intro other
  rcases Nat.lt_trichotomy other low with less | rfl | more
  · -- The middle behind fewer bits lies below the lower neighbour.
    have first := units_lt less
    have second : (units (other + 1) : ℚ) ≤ units low := units_le less
    refine iff_of_false (by omega) ?_
    rintro (below | ⟨middle, -⟩) <;> linarith
  · rcases decided with ⟨rfl, below⟩ | ⟨rfl, above⟩
    · exact iff_of_true le_rfl below
    · exact iff_of_false (by omega) above
  · have first : (units (low + 1) : ℚ) ≤ units other := units_le more
    have second := units_lt (Nat.lt_succ_self other)
    exact iff_of_true (by omega) (.inl (by linarith))

/-- No number lies closer than the one that an amount is rounded to, and another one lies as close
only if the bits are even. -/
theorem Rounds.closest {bits : Nat} {amount : ℚ} (rounds : Rounds bits amount) (other : Nat) :
    |(units bits : ℚ) - amount| ≤ |(units other : ℚ) - amount| ∧
      (|(units other : ℚ) - amount| = |(units bits : ℚ) - amount| →
        other = bits ∨ bits % 2 = 0) := by
  rcases Nat.lt_trichotomy other bits with less | rfl | more
  · -- The amount does not lie below the middle in front of the bits.
    obtain ⟨last, rfl⟩ : ∃ last, bits = last + 1 := ⟨bits - 1, by omega⟩
    have reached : ¬ Below last amount := by
      rw [← rounds last]
      omega
    have middle : (units last : ℚ) + units (last + 1) ≤ 2 * amount :=
      not_lt.mp fun below => reached (.inl below)
    have first := units_lt less
    have second : (units other : ℚ) ≤ units last := units_le (by omega)
    have negative : (units other : ℚ) - amount ≤ 0 := by linarith
    rw [abs_of_nonpos negative]
    refine ⟨abs_le.mpr ⟨by linarith, by linarith⟩, fun same => .inr ?_⟩
    have tie : 2 * amount = units last + units (last + 1) := by
      rcases abs_choice ((units (last + 1) : ℚ) - amount) with plain | turned
      · rw [plain] at same
        linarith
      · rw [turned] at same
        linarith
    by_contra odd
    exact reached (.inr ⟨tie, by omega⟩)
  · exact ⟨le_rfl, fun _ => .inl rfl⟩
  · have within : Below bits amount := (rounds bits).mp le_rfl
    have middle : 2 * amount ≤ units bits + units (bits + 1) := by
      rcases within with below | ⟨middle, -⟩ <;> linarith
    have first := units_lt more
    have second : (units (bits + 1) : ℚ) ≤ units other := units_le more
    have positive : 0 ≤ (units other : ℚ) - amount := by linarith
    rw [abs_of_nonneg positive]
    refine ⟨abs_le.mpr ⟨by linarith, by linarith⟩, fun same => .inr ?_⟩
    rcases within with below | ⟨-, even⟩
    · rcases abs_choice ((units bits : ℚ) - amount) with plain | turned
      · rw [plain] at same
        linarith
      · rw [turned] at same
        linarith
    · exact even

/-! ## From bits to numbers -/

/-- The number with bits that do not go beyond the infinite one. -/
theorem bits_toUInt64 {bits : Nat} (small : bits ≤ infinityBits) :
    (Binary64.mk bits.toUInt64).bits.toNat = bits := by
  have bound : infinityBits < 2 ^ 64 := by decide
  exact Nat.mod_eq_of_lt (by omega)

/-- Such a number has no sign. -/
theorem negative_toUInt64 {bits : Nat} (small : bits ≤ infinityBits) :
    (Binary64.mk bits.toUInt64).negative = false := by
  have bound : infinityBits < 2 ^ 63 := by decide
  rw [negative, bits_toUInt64 small, decide_eq_false_iff_not, twoPow, Nat.pow_eq]
  omega

/-- Of such numbers the one with the most bits is not finite. -/
theorem special_toUInt64 {bits : Nat} (small : bits ≤ infinityBits) :
    (Binary64.mk bits.toUInt64).special = true ↔ bits = infinityBits := by
  simp only [special, exponentField, bits_toUInt64 small, twoPow, Nat.pow_eq, decide_eq_true_eq]
  simp only [infinityBits, twoPow, Nat.pow_eq] at small ⊢
  omega

/-- The value of such a number. -/
theorem toRat_toUInt64 {bits : Nat} (small : bits ≤ infinityBits) :
    (Binary64.mk bits.toUInt64).toRat = units bits / unitsOfOne := by
  have bound : infinityBits < 2 ^ 63 := by decide
  rw [toRat_eq_units, negative_toUInt64 small, bits_toUInt64 small,
    Nat.mod_eq_of_lt (by omega : bits < 2 ^ 63)]
  simp

/-- A finite number without a sign has fewer bits than the infinite one. -/
theorem bits_lt_infinityBits {x : Binary64} (unsigned : x.negative = false)
    (finite : x.special = false) : x.bits.toNat < infinityBits := by
  have bound := x.bits.toNat_lt
  rw [negative, decide_eq_false_iff_not] at unsigned
  rw [special, decide_eq_false_iff_not] at finite
  simp only [exponentField, infinityBits, twoPow, Nat.pow_eq] at unsigned finite ⊢
  omega

/-- The last finite number and the infinite one, as far as its bits tell, lie on both sides of
where numbers become infinite. -/
theorem units_infinityBits :
    (units (infinityBits - 1) : ℚ) + units infinityBits = 2 * (overflow * unitsOfOne) ∧
      infinityBits % 2 = 0 := by
  have last := units_grid 2045 9007199254740991 (.inr (by omega)) (by omega)
  have beyond := units_grid 2046 (2 ^ 52) (.inr le_rfl) (by omega)
  have first : 2045 * 2 ^ 52 + 9007199254740991 = infinityBits - 1 := by decide
  have second : 2046 * 2 ^ 52 + 2 ^ 52 = infinityBits := by decide
  rw [first] at last
  rw [second] at beyond
  have one : (2 : ℚ) ^ 1024 = 2 ^ 54 * 2 ^ 970 := by rw [← pow_add]
  have two : (2 : ℚ) ^ 2045 = 2 * (2 ^ 970 * unitsOfOne) := by
    rw [unitsOfOne, ← pow_add, ← pow_succ']
  have three : (2 : ℚ) ^ 2046 = 2 * 2 ^ 2045 := by rw [← pow_succ']
  refine ⟨?_, by decide⟩
  rw [last, beyond, overflow]
  simp only [Nat.cast_mul, Nat.cast_pow, Nat.cast_ofNat]
  rw [three, two, one]
  generalize (2 : ℚ) ^ 970 = power
  ring

/-- An amount becomes infinite where the bits it is rounded to do. -/
theorem infinityBits_le_iff {bits : Nat} {amount : ℚ}
    (rounds : Rounds bits (amount * unitsOfOne)) : infinityBits ≤ bits ↔ overflow ≤ amount := by
  obtain ⟨middle, even⟩ := units_infinityBits
  have top : infinityBits - 1 + 1 = infinityBits := by decide
  have step : infinityBits ≤ bits ↔ ¬ bits ≤ infinityBits - 1 := by omega
  rw [step, rounds, Below, top, middle]
  constructor
  · intro reached
    have above : overflow * unitsOfOne ≤ amount * unitsOfOne := by
      rw [← not_lt]
      exact fun below => reached (.inl (by linarith))
    exact le_of_mul_le_mul_right above unitsOfOne_pos
  · intro above
    have above := mul_le_mul_of_nonneg_right above unitsOfOne_pos.le
    rintro (below | ⟨-, odd⟩)
    · linarith
    · omega

/-- The distance between two values is the distance between their units. -/
theorem abs_div_sub (count amount : ℚ) :
    |count / unitsOfOne - amount| = |count - amount * unitsOfOne| / unitsOfOne := by
  have scaled : count / unitsOfOne - amount = (count - amount * unitsOfOne) / unitsOfOne := by
    rw [sub_div, mul_div_cancel_right₀ _ unitsOfOne_pos.ne']
  rw [scaled, abs_div, abs_of_pos unitsOfOne_pos]

/-- A finite number lies as far from an amount as its bits without the sign do, or farther; it
lies farther if it has a sign and another value. -/
theorem exists_bits_closer (y : Binary64) {amount : ℚ} (positive : 0 ≤ amount) :
    ∃ bits : Nat, |(units bits : ℚ) / unitsOfOne - amount| ≤ |y.toRat - amount| ∧
      (|y.toRat - amount| = |(units bits : ℚ) / unitsOfOne - amount| →
        y.toRat = units bits / unitsOfOne) := by
  rw [toRat_eq_units]
  generalize y.bits.toNat % 2 ^ 63 = bits
  cases y.negative with
  | false => exact ⟨bits, by simp⟩
  | true =>
    have high : 0 ≤ units bits / unitsOfOne := div_nonneg (Nat.cast_nonneg _) unitsOfOne_pos.le
    have zero : (units 0 : ℚ) = 0 := by simp [units]
    refine ⟨0, ?_⟩
    rw [zero, zero_div, zero_sub, abs_neg, abs_of_nonneg positive, if_pos rfl, neg_one_mul,
      neg_div, abs_of_nonpos (by linarith)]
    exact ⟨by linarith, fun same => by linarith⟩

/-- The bits that an amount is rounded to are those of the nearest number. -/
theorem nearest_of_rounds {bits : Nat} {amount : ℚ} (positive : 0 ≤ amount)
    (rounds : Rounds bits (amount * unitsOfOne)) :
    Nearest ⟨(min bits infinityBits).toUInt64⟩ amount := by
  have small : min bits infinityBits ≤ infinityBits := Nat.min_le_right _ _
  have special := special_toUInt64 small
  have infinite := infinityBits_le_iff rounds
  have value := toRat_toUInt64 small
  have parity := significand_mod_two ⟨(min bits infinityBits).toUInt64⟩
  have fraction : (Binary64.mk infinityBits.toUInt64).fraction = 0 := by decide
  rw [bits_toUInt64 small] at parity
  -- A finite number keeps the bits.
  have kept (finite : (Binary64.mk (min bits infinityBits).toUInt64).special = false) :
      min bits infinityBits = bits := by
    rw [← Bool.not_eq_true, special] at finite
    omega
  refine ⟨negative_toUInt64 small, ?_, ?_, ?_, ?_⟩
  · rw [special, ← infinite]
    omega
  · intro isSpecial
    rw [special.mp isSpecial, fraction]
  · intro finite y _
    obtain ⟨other, closer, -⟩ := exists_bits_closer y positive
    rw [value, kept finite]
    refine le_trans ?_ closer
    rw [abs_div_sub, abs_div_sub]
    exact div_le_div_of_nonneg_right (rounds.closest other).1 unitsOfOne_pos.le
  · intro finite y _ same
    obtain ⟨other, closer, decided⟩ := exists_bits_closer y positive
    rw [value, kept finite] at same ⊢
    have closest := (rounds.closest other).1
    have between : |(units bits : ℚ) / unitsOfOne - amount| ≤
        |(units other : ℚ) / unitsOfOne - amount| := by
      rw [abs_div_sub, abs_div_sub]
      exact div_le_div_of_nonneg_right closest unitsOfOne_pos.le
    have tie : |(units other : ℚ) / unitsOfOne - amount| =
        |(units bits : ℚ) / unitsOfOne - amount| := le_antisymm (same ▸ closer) between
    rw [decided (same.trans tie.symm)]
    rw [abs_div_sub, abs_div_sub, div_left_inj' unitsOfOne_pos.ne'] at tie
    rcases (rounds.closest other).2 tie with rfl | even
    · exact .inl rfl
    · rw [kept finite] at parity
      exact .inr (Nat.even_iff.mpr (parity.trans even))

/-- The infinite number is nearest to all amounts that are too large. -/
theorem nearest_infinity {amount : ℚ} (large : overflow ≤ amount) :
    Nearest ⟨infinityBits.toUInt64⟩ amount := by
  have special : (Binary64.mk infinityBits.toUInt64).special = true :=
    (special_toUInt64 le_rfl).mpr rfl
  refine ⟨by decide, iff_of_true special large, fun _ => by decide, ?_, ?_⟩
  all_goals
    intro finite
    rw [special] at finite
    cases finite

/-- The finite nearest number in bits: no other bits lie closer, and others lie as close only if
these are even. -/
theorem Nearest.closest_bits {x : Binary64} {amount : ℚ} (nearest : x.Nearest amount)
    (finite : x.special = false) {other : Nat} (small : other < infinityBits) :
    |(units x.bits.toNat : ℚ) - amount * unitsOfOne| ≤
        |(units other : ℚ) - amount * unitsOfOne| ∧
      (|(units other : ℚ) - amount * unitsOfOne| =
          |(units x.bits.toNat : ℚ) - amount * unitsOfOne| →
        other = x.bits.toNat ∨ x.bits.toNat % 2 = 0) := by
  have within := bits_lt_infinityBits nearest.unsigned finite
  have same : x = ⟨x.bits.toNat.toUInt64⟩ := by simp
  have value := toRat_toUInt64 within.le
  rw [← same] at value
  have finiteToo : (Binary64.mk other.toUInt64).special = false := by
    rw [← Bool.not_eq_true, special_toUInt64 small.le]
    omega
  have closest := nearest.closest finite _ finiteToo
  have even := nearest.even finite _ finiteToo
  rw [toRat_toUInt64 small.le, value, abs_div_sub, abs_div_sub] at closest even
  refine ⟨(div_le_div_iff_of_pos_right unitsOfOne_pos).mp closest, fun tie => ?_⟩
  rcases even (congrArg (· / unitsOfOne) tie) with equal | even
  · rw [div_left_inj' unitsOfOne_pos.ne', Nat.cast_inj] at equal
    exact .inl (strictMono_units.injective equal)
  · rw [Nat.even_iff, significand_mod_two] at even
    exact .inr even

/-- At most one finite number is nearest. -/
theorem Nearest.bits_le {x y : Binary64} {amount : ℚ} (first : x.Nearest amount)
    (second : y.Nearest amount) (finite : x.special = false) (finiteToo : y.special = false) :
    x.bits.toNat ≤ y.bits.toNat := by
  by_contra more
  rw [not_le] at more
  have small := bits_lt_infinityBits first.unsigned finite
  have smallToo := bits_lt_infinityBits second.unsigned finiteToo
  obtain ⟨closer, even⟩ := first.closest_bits finite smallToo
  obtain ⟨closerToo, evenToo⟩ := second.closest_bits finiteToo small
  have tie := le_antisymm closer closerToo
  have even : x.bits.toNat % 2 = 0 := by
    rcases even tie.symm with same | even
    · omega
    · exact even
  have evenToo : y.bits.toNat % 2 = 0 := by
    rcases evenToo tie with same | even
    · omega
    · exact even
  -- Two even neighbours of the amount have an odd number between them, which lies closer.
  have between := (second.closest_bits finiteToo
    (show y.bits.toNat + 1 < infinityBits by omega)).1
  have low : (units y.bits.toNat : ℚ) < units (y.bits.toNat + 1) := units_lt (by omega)
  have high : (units (y.bits.toNat + 1) : ℚ) < units x.bits.toNat := units_lt (by omega)
  generalize amount * unitsOfOne = count at *
  have middle : 2 * count = units x.bits.toNat + units y.bits.toNat := by
    rcases abs_eq_abs.mp tie with same | turned <;> linarith
  rw [abs_of_nonpos (by linarith : (units y.bits.toNat : ℚ) - count ≤ 0)] at between
  exact absurd between (not_le.mpr (abs_lt.mpr ⟨by linarith, by linarith⟩))

/-- The positive infinite number is known by its parts. -/
theorem bits_eq_infinityBits {x : Binary64} (unsigned : x.negative = false)
    (special : x.special = true) (fraction : x.fraction = 0) :
    x.bits.toNat = infinityBits := by
  have bound := x.bits.toNat_lt
  rw [negative, decide_eq_false_iff_not] at unsigned
  rw [Binary64.special, decide_eq_true_eq] at special
  simp only [exponentField, Binary64.fraction, infinityBits, twoPow, Nat.pow_eq] at *
  omega

/-- At most one number is nearest. -/
theorem Nearest.unique {x y : Binary64} {amount : ℚ} (first : x.Nearest amount)
    (second : y.Nearest amount) : x = y := by
  have special : y.special = x.special := by
    rw [Bool.eq_iff_iff, first.special, second.special]
  have bits : x.bits.toNat = y.bits.toNat := by
    cases finite : x.special with
    | false =>
      rw [finite] at special
      exact le_antisymm (first.bits_le second finite special) (second.bits_le first special finite)
    | true =>
      rw [finite] at special
      rw [bits_eq_infinityBits first.unsigned finite (first.fraction finite),
        bits_eq_infinityBits second.unsigned special (second.fraction special)]
  cases x
  cases y
  exact congrArg Binary64.mk (UInt64.toNat_inj.mp bits)

/-! ## Quotients -/

/-- A quotient lies between two powers of two. -/
theorem log2Quotient_spec {numerator denominator : Nat} (positive : 0 < numerator)
    (divisor : 0 < denominator) :
    (2 : ℚ) ^ log2Quotient numerator denominator ≤ numerator / denominator ∧
      (numerator : ℚ) / denominator < 2 ^ (log2Quotient numerator denominator + 1) := by
  have below : (0 : ℚ) < denominator := Nat.cast_pos.mpr divisor
  have numLow : (2 : ℚ) ^ numerator.log2 ≤ numerator := by
    exact_mod_cast Nat.log2_self_le positive.ne'
  have numHigh : (numerator : ℚ) < 2 ^ (numerator.log2 + 1) := by
    exact_mod_cast Nat.lt_log2_self
  have denLow : (2 : ℚ) ^ denominator.log2 ≤ denominator := by
    exact_mod_cast Nat.log2_self_le divisor.ne'
  have denHigh : (denominator : ℚ) < 2 ^ (denominator.log2 + 1) := by
    exact_mod_cast Nat.lt_log2_self
  generalize guessed : (numerator.log2 : Int) - denominator.log2 = guess
  have power : (2 : ℚ) ^ guess * 2 ^ denominator.log2 = 2 ^ numerator.log2 := by
    rw [← zpow_natCast, ← zpow_natCast, ← zpow_add₀ two_ne_zero]
    congr 1
    omega
  have positivePower : (0 : ℚ) < 2 ^ guess := zpow_pos two_pos _
  -- The guess is right or one too high.
  have low : (2 : ℚ) ^ (guess - 1) ≤ numerator / denominator := by
    rw [zpow_sub_one₀ two_ne_zero, le_div_iff₀ below]
    rw [pow_succ] at denHigh
    nlinarith
  have high : (numerator : ℚ) / denominator < 2 ^ (guess + 1) := by
    rw [zpow_add_one₀ two_ne_zero, div_lt_iff₀ below]
    rw [pow_succ] at numHigh
    nlinarith
  have test : denominator * twoPow guess.toNat ≤ numerator * twoPow (-guess).toNat ↔
      (2 : ℚ) ^ guess ≤ numerator / denominator := by
    have whole : (0 : ℚ) < 2 ^ (-guess).toNat := pow_pos two_pos _
    rw [zpow_eq_div, div_le_div_iff₀ whole below, mul_comm]
    simp only [twoPow, Nat.pow_eq]
    exact_mod_cast Iff.rfl
  simp only [log2Quotient, guessed, test]
  split
  · rename_i reached
    exact ⟨reached, high⟩
  · rename_i missed
    rw [sub_add_cancel]
    exact ⟨low, not_le.mp missed⟩

/-- Whether a quotient is rounded down. -/
theorem roundQuotient_cases {numerator denominator : Nat} (divisor : 0 < denominator) :
    ∃ count : Nat, (count : ℚ) ≤ numerator / denominator ∧
      (numerator : ℚ) / denominator < count + 1 ∧
      (roundQuotient numerator denominator = count ∧
          (2 * ((numerator : ℚ) / denominator) < count + (count + 1) ∨
            2 * ((numerator : ℚ) / denominator) = count + (count + 1) ∧ count % 2 = 0) ∨
        roundQuotient numerator denominator = count + 1 ∧
          ¬ (2 * ((numerator : ℚ) / denominator) < count + (count + 1) ∨
            2 * ((numerator : ℚ) / denominator) = count + (count + 1) ∧ count % 2 = 0)) := by
  have below : (0 : ℚ) < denominator := Nat.cast_pos.mpr divisor
  have split : (numerator : ℚ) / denominator =
      (numerator / denominator : Nat) + ((numerator % denominator : Nat) : ℚ) / denominator := by
    rw [eq_comm, ← mul_div_cancel_left₀ ((numerator / denominator : Nat) : ℚ) below.ne', ← add_div]
    congr 1
    exact_mod_cast Nat.div_add_mod numerator denominator
  have small : ((numerator % denominator : Nat) : ℚ) / denominator < 1 := by
    rw [div_lt_one below]
    exact_mod_cast Nat.mod_lt numerator divisor
  have positive : (0 : ℚ) ≤ ((numerator % denominator : Nat) : ℚ) / denominator := by positivity
  have less : 2 * (((numerator % denominator : Nat) : ℚ) / denominator) < 1 ↔
      2 * (numerator % denominator) < denominator := by
    rw [← mul_div_assoc, div_lt_one below]
    exact_mod_cast Iff.rfl
  have same : 2 * (((numerator % denominator : Nat) : ℚ) / denominator) = 1 ↔
      2 * (numerator % denominator) = denominator := by
    rw [← mul_div_assoc, div_eq_one_iff_eq below.ne']
    exact_mod_cast Iff.rfl
  rw [split, roundQuotient]
  simp only [← less, ← same]
  generalize ((numerator % denominator : Nat) : ℚ) / denominator = rest at *
  generalize numerator / denominator = count
  refine ⟨count, by linarith, by linarith, ?_⟩
  have shift : 2 * ((count : ℚ) + rest) = 2 * count + 2 * rest := by ring
  have twice : (count : ℚ) + (count + 1) = 2 * count + 1 := by ring
  rw [shift, twice, add_lt_add_iff_left, add_right_inj]
  split
  · exact .inl ⟨rfl, by assumption⟩
  · exact .inr ⟨rfl, by assumption⟩

/-- An amount between two multiples of a last place is rounded to one of them, as its quotient by
the last place is. -/
theorem rounds_of_count {place count rounded : Nat} {quotient : ℚ}
    (within : place = 0 ∨ 2 ^ 52 ≤ count) (top : count < 2 ^ 53) (above : (count : ℚ) ≤ quotient)
    (under : quotient < count + 1)
    (decided : rounded = count ∧ (2 * quotient < count + (count + 1) ∨
        2 * quotient = count + (count + 1) ∧ count % 2 = 0) ∨
      rounded = count + 1 ∧ ¬ (2 * quotient < count + (count + 1) ∨
        2 * quotient = count + (count + 1) ∧ count % 2 = 0)) :
    Rounds (place * 2 ^ 52 + rounded) (quotient * 2 ^ place) := by
  have positive : (0 : ℚ) < 2 ^ place := pow_pos two_pos _
  have here : (units (place * 2 ^ 52 + count) : ℚ) = count * 2 ^ place := by
    rw [units_grid place count within top.le]
    push_cast
    rfl
  have next : (units (place * 2 ^ 52 + count + 1) : ℚ) = (count + 1) * 2 ^ place := by
    rw [Nat.add_assoc, units_grid place (count + 1) (by omega) top]
    push_cast
    rfl
  have below : Below (place * 2 ^ 52 + count) (quotient * 2 ^ place) ↔
      2 * quotient < count + (count + 1) ∨
        2 * quotient = count + (count + 1) ∧ count % 2 = 0 := by
    have parity : (place * 2 ^ 52 + count) % 2 = count % 2 := by omega
    rw [Below, here, next, parity, ← mul_assoc, ← add_mul, mul_lt_mul_iff_left₀ positive,
      mul_left_inj' positive.ne']
  refine @rounds_of_between (place * 2 ^ 52 + count) _ _ ?_ ?_ ?_
  · rw [here]
    exact mul_le_mul_of_nonneg_right above positive.le
  · rw [next]
    exact mul_lt_mul_of_pos_right under positive
  · rw [below]
    rcases decided with ⟨rfl, low⟩ | ⟨rfl, high⟩
    · exact .inl ⟨rfl, low⟩
    · exact .inr ⟨(Nat.add_assoc _ _ _).symm, high⟩

/-- A quotient is taken to the nearest number. -/
theorem ofQuotient_nearest {numerator denominator : Nat} (positive : 0 < numerator)
    (divisor : 0 < denominator) :
    (ofQuotient numerator denominator).Nearest (numerator / denominator) := by
  obtain ⟨low, high⟩ := log2Quotient_spec positive divisor
  refine nearest_of_rounds (by positivity) ?_
  generalize log2Quotient numerator denominator = log at *
  generalize same : max (log - 52) lowestScale = scale
  rw [lowestScale] at same ⊢
  -- The quotient by the last place is what is rounded to a whole number.
  have scaled : 0 < denominator * twoPow scale.toNat := Nat.mul_pos divisor (Nat.two_pow_pos _)
  obtain ⟨count, above, under, decided⟩ :=
    @roundQuotient_cases (numerator * twoPow (-scale).toNat) _ scaled
  have shifted : ((numerator * twoPow (-scale).toNat : Nat) : ℚ) /
      (denominator * twoPow scale.toNat : Nat) = numerator / denominator / 2 ^ scale := by
    have one : (2 : ℚ) ^ scale.toNat ≠ 0 := pow_ne_zero _ two_ne_zero
    have two : (2 : ℚ) ^ (-scale).toNat ≠ 0 := pow_ne_zero _ two_ne_zero
    have three : (denominator : ℚ) ≠ 0 := Nat.cast_ne_zero.mpr divisor.ne'
    rw [zpow_eq_div]
    simp only [twoPow, Nat.pow_eq, Nat.cast_mul, Nat.cast_pow, Nat.cast_ofNat]
    field_simp
  rw [shifted] at above under decided
  generalize (numerator : ℚ) / denominator = amount at *
  have unit : (0 : ℚ) < 2 ^ scale := zpow_pos two_pos _
  have place : (2 : ℚ) ^ scale * unitsOfOne = 2 ^ (scale - -1074).toNat := by
    rw [unitsOfOne, ← zpow_natCast, ← zpow_natCast, ← zpow_add₀ two_ne_zero]
    congr 1
    omega
  have units : amount * unitsOfOne = amount / 2 ^ scale * 2 ^ (scale - -1074).toNat := by
    rw [← place, ← mul_assoc, div_mul_cancel₀ _ unit.ne']
  have bounded : amount / 2 ^ scale < 2 ^ 53 := by
    rw [div_lt_iff₀ unit, ← zpow_natCast, ← zpow_add₀ two_ne_zero]
    exact high.trans_le (zpow_le_zpow_right₀ one_le_two (by omega))
  have top : count < 2 ^ 53 := by exact_mod_cast above.trans_lt bounded
  have within : (scale - -1074).toNat = 0 ∨ 2 ^ 52 ≤ count := by
    by_cases lowest : scale = -1074
    · exact .inl (by omega)
    · have full : 2 ^ 52 ≤ amount / 2 ^ scale := by
        rw [le_div_iff₀ unit, ← zpow_natCast, ← zpow_add₀ two_ne_zero]
        exact le_trans (zpow_le_zpow_right₀ one_le_two (by omega)) low
      have full : 2 ^ 52 < count + 1 := by exact_mod_cast full.trans_lt under
      exact .inr (by omega)
  rw [units]
  exact rounds_of_count within top above under decided

/-! ## Decimals -/

/-- Nothing is nearest to nothing. -/
theorem nearest_zero {amount : ℚ} (positive : 0 ≤ amount) (small : 2 * (amount * unitsOfOne) < 1) :
    Nearest ⟨0⟩ amount := by
  have zero : units 0 = 0 := by simp [units]
  have one : units (0 + 1) = 1 := by
    rw [units_succ, zero, Nat.zero_div, Nat.zero_sub, pow_zero, Nat.zero_add]
  have scaled : 0 ≤ amount * unitsOfOne := mul_nonneg positive unitsOfOne_pos.le
  refine @nearest_of_rounds 0 _ positive (@rounds_of_between 0 _ _ ?_ ?_ (.inl ⟨rfl, ?_⟩))
  · rw [zero]
    exact_mod_cast scaled
  · rw [one, Nat.cast_one]
    linarith
  · rw [Below, zero, one, Nat.cast_zero, Nat.cast_one, zero_add]
    exact .inl small

/-- A decimal with a large exponent is too large. -/
theorem overflow_le_of_lt {digits : Nat} {exponent : Int} (some : digits ≠ 0)
    (large : 310 < exponent) : overflow ≤ digits * 10 ^ exponent := by
  have powers : (2 : ℚ) ^ 1024 ≤ 10 ^ 311 := by
    exact_mod_cast (by decide +kernel : 2 ^ 1024 ≤ 10 ^ 311)
  have one : (1 : ℚ) ≤ digits := by exact_mod_cast Nat.one_le_iff_ne_zero.mpr some
  have ten : (1 : ℚ) ≤ 10 := by norm_num
  calc overflow
    _ ≤ 2 ^ 1024 := sub_le_self _ (pow_pos two_pos _).le
    _ ≤ 10 ^ 311 := powers
    _ = 10 ^ (311 : Int) := (zpow_ofNat _ _).symm
    _ ≤ 10 ^ exponent := zpow_le_zpow_right₀ ten large
    _ ≤ digits * 10 ^ exponent := le_mul_of_one_le_left (zpow_pos (by norm_num) _).le one

/-- A decimal with a small exponent is too small. -/
theorem units_lt_of_lt {digits : Nat} {exponent : Int}
    (small : exponent < -(400 + digits.log2 : Int)) :
    2 * (digits * 10 ^ exponent * unitsOfOne) < 1 := by
  have powers : 2 * 2 * unitsOfOne < 10 ^ 401 := by
    rw [unitsOfOne]
    exact_mod_cast (by decide +kernel : 2 * 2 * 2 ^ 1074 < 10 ^ 401)
  have high : (digits : ℚ) < 2 ^ digits.log2 * 2 := by
    rw [← pow_succ]
    exact_mod_cast Nat.lt_log2_self
  have low : (10 : ℚ) ^ exponent * (10 ^ 401 * 2 ^ digits.log2) ≤ 1 := by
    calc (10 : ℚ) ^ exponent * (10 ^ 401 * 2 ^ digits.log2)
      _ ≤ 10 ^ exponent * (10 ^ 401 * 10 ^ digits.log2) := by gcongr; norm_num
      _ = 10 ^ (exponent + (401 + digits.log2 : Nat)) := by
        rw [zpow_add₀ (by norm_num), zpow_natCast, pow_add]
      _ ≤ 1 := zpow_le_one_of_nonpos₀ (by norm_num) (by omega)
  have positive : (0 : ℚ) < 10 ^ exponent := zpow_pos (by norm_num) _
  have one := unitsOfOne_pos
  generalize unitsOfOne = units at *
  calc 2 * (digits * 10 ^ exponent * units)
    _ ≤ 2 * (2 ^ digits.log2 * 2 * 10 ^ exponent * units) := by gcongr
    _ = 10 ^ exponent * (2 * 2 * units * 2 ^ digits.log2) := by ring
    _ < 10 ^ exponent * (10 ^ 401 * 2 ^ digits.log2) := by gcongr
    _ ≤ 1 := low

/-- A decimal is taken to the nearest number. -/
theorem ofDecimal_nearest (digits : Nat) (exponent : Int) :
    (ofDecimal digits exponent).Nearest (digits * 10 ^ exponent) := by
  have positive : (0 : ℚ) < 10 ^ exponent := zpow_pos (by norm_num) _
  unfold ofDecimal
  split
  · rename_i none
    rw [none, Nat.cast_zero, zero_mul]
    exact nearest_zero le_rfl (by norm_num)
  · rename_i some
    split
    · rename_i large
      exact nearest_infinity (overflow_le_of_lt some large)
    · split
      · rename_i small
        exact nearest_zero (by positivity) (units_lt_of_lt small)
      · have amount : (digits : ℚ) * 10 ^ exponent =
            (digits * tenPow exponent.toNat : Nat) / (tenPow (-exponent).toNat : Nat) := by
          rw [zpow_eq_div, ← mul_div_assoc]
          simp only [tenPow, Nat.pow_eq, Nat.cast_mul, Nat.cast_pow, Nat.cast_ofNat]
        rw [amount]
        exact ofQuotient_nearest (Nat.mul_pos (Nat.pos_of_ne_zero some) (Nat.pow_pos (by decide)))
          (Nat.pow_pos (by decide))

/-! ## Arithmetic -/

/-- A number without a sign as a fraction. -/
theorem numerator_div_denominator {x : Binary64} (unsigned : x.negative = false) :
    (x.numerator : ℚ) / x.denominator = x.toRat := by
  rw [toRat, unsigned, if_neg Bool.false_ne_true, one_mul, zpow_eq_div, numerator, denominator]
  simp only [twoPow, Nat.pow_eq, Nat.cast_mul, Nat.cast_pow, Nat.cast_ofNat]
  exact mul_div_assoc _ _ _

/-- A sum is taken to the nearest number. -/
theorem add_nearest {x y : Binary64} (unsigned : x.negative = false)
    (unsignedToo : y.negative = false) (some : 0 < x.significand) :
    (x.add y).Nearest (x.toRat + y.toRat) := by
  have first : 0 < x.denominator := Nat.two_pow_pos _
  have second : 0 < y.denominator := Nat.two_pow_pos _
  have positive : 0 < x.numerator * y.denominator :=
    Nat.mul_pos (Nat.mul_pos some (Nat.two_pow_pos _)) second
  have amount : x.toRat + y.toRat =
      (x.numerator * y.denominator + y.numerator * x.denominator : Nat) /
        (x.denominator * y.denominator : Nat) := by
    have one : (x.denominator : ℚ) ≠ 0 := Nat.cast_ne_zero.mpr first.ne'
    have two : (y.denominator : ℚ) ≠ 0 := Nat.cast_ne_zero.mpr second.ne'
    rw [← numerator_div_denominator unsigned, ← numerator_div_denominator unsignedToo]
    push_cast
    field_simp
  rw [amount]
  exact ofQuotient_nearest (by omega) (Nat.mul_pos first second)

/-- A quotient by a whole number is taken to the nearest number. -/
theorem divide_nearest {x : Binary64} (unsigned : x.negative = false) (some : 0 < x.significand)
    {divisor : Nat} (nonzero : 0 < divisor) : (x.divide divisor).Nearest (x.toRat / divisor) := by
  have amount : x.toRat / divisor = (x.numerator : ℚ) / (x.denominator * divisor : Nat) := by
    rw [← numerator_div_denominator unsigned, div_div, Nat.cast_mul]
  rw [amount]
  exact ofQuotient_nearest (Nat.mul_pos some (Nat.two_pow_pos _))
    (Nat.mul_pos (Nat.two_pow_pos _) nonzero)

end Binary64

end Cpplet.Decimal

import Cpplet.Decimal.Shortest
import Cpplet.Proofs.Rounding
import Mathlib.Data.Rat.Floor
import Mathlib.Tactic.LinearCombination

/-!
# The shortest decimal reads back

The decimal that a finite positive number is written with is taken back to the number, no multiple
of a greater power of ten is, and of the multiples of the same power that are none lies closer to
the number (`Binary64.shortest_spec`).

The interval that is searched holds exactly the amounts that the number is nearest to
(`contains_iff_nearest`), and a grid is hit by the closest of its multiples there (`onGrid_cases`).
The grids that are searched are enough: above the first no multiple reaches down into the interval
(`not_contains_of_top_lt`), and on the last the multiples lie so close that one of them meets it
(`contains_bottom`).
-/

namespace Cpplet.Decimal

/-- An amount lies in an interval. -/
def Interval.Contains (interval : Interval) (amount : ℚ) : Prop :=
  if interval.closed then
    interval.low ≤ amount * interval.denominator ∧ amount * interval.denominator ≤ interval.high
  else interval.low < amount * interval.denominator ∧ amount * interval.denominator < interval.high

namespace Binary64

variable {x : Binary64} {amount : ℚ} {last : Nat}

/-! ## The amounts that a number is nearest to -/

/-- What is rounded to some bits or fewer is rounded to more bits or fewer. -/
theorem Below.mono {low high : Nat} (below : Below low amount) (less : low < high) :
    Below high amount := by
  have first := units_lt less
  have second : (units (low + 1) : ℚ) ≤ units high := units_le less
  have third := units_lt (Nat.lt_succ_self high)
  rcases below with below | ⟨middle, -⟩ <;> exact .inl (by linarith)

/-- An amount is rounded to some bits if it lies between the middles in front of them and behind
them. -/
theorem rounds_succ_iff :
    Rounds (last + 1) amount ↔ ¬ Below last amount ∧ Below (last + 1) amount := by
  constructor
  · intro rounds
    refine ⟨?_, (rounds _).mp le_rfl⟩
    rw [← rounds last]
    omega
  · rintro ⟨above, below⟩ other
    rcases Nat.lt_or_ge last other with more | less
    · refine iff_of_true more ?_
      rcases Nat.eq_or_lt_of_le more with rfl | more
      · exact below
      · exact below.mono more
    · refine iff_of_false (by omega) fun under => above ?_
      rcases Nat.eq_or_lt_of_le less with rfl | less
      · exact under
      · exact under.mono less

/-- A finite number is nearest to amounts behind the middle in front of it only. -/
theorem Nearest.not_below (nearest : x.Nearest amount) (finite : x.special = false)
    (bits : x.bits.toNat = last + 1) : ¬ Below last (amount * unitsOfOne) := by
  have small := bits_lt_infinityBits nearest.unsigned finite
  obtain ⟨closest, even⟩ := nearest.closest_bits finite (show last < infinityBits by omega)
  rw [bits] at closest even
  generalize amount * unitsOfOne = count at *
  have less := units_lt (Nat.lt_succ_self last)
  rintro (below | ⟨middle, evenToo⟩)
  · have far := le_abs_self ((units (last + 1) : ℚ) - count)
    refine absurd closest (not_le.mpr (lt_of_lt_of_le (abs_lt.mpr ⟨?_, ?_⟩) far)) <;> linarith
  · have tie : (units last : ℚ) - count = -((units (last + 1) : ℚ) - count) := by linarith
    have parity := even (by rw [tie, abs_neg])
    omega

/-- A finite number is nearest to amounts in front of the middle behind it only. -/
theorem Nearest.below (nearest : x.Nearest amount) (finite : x.special = false)
    (bits : x.bits.toNat = last + 1) : Below (last + 1) (amount * unitsOfOne) := by
  have small := bits_lt_infinityBits nearest.unsigned finite
  rw [bits] at small
  rcases Nat.eq_or_lt_of_le (Nat.succ_le_of_lt small) with top | more
  · -- The largest finite number has the infinite one behind it.
    have finiteToo : amount < overflow := by
      rw [← not_le, ← nearest.special, finite]
      exact Bool.false_ne_true
    have scaled := mul_lt_mul_of_pos_right finiteToo unitsOfOne_pos
    obtain ⟨middle, -⟩ := units_infinityBits
    have behind : infinityBits - 1 = last + 1 := by omega
    rw [behind, ← top] at middle
    exact .inl (by rw [middle]; linarith)
  · obtain ⟨closest, even⟩ := nearest.closest_bits finite more
    rw [bits] at closest even
    generalize amount * unitsOfOne = count at *
    have less := units_lt (Nat.lt_succ_self (last + 1))
    rcases lt_trichotomy (2 * count) (units (last + 1) + units (last + 2)) with under | middle | far
    · exact .inl under
    · have tie : (units (last + 2) : ℚ) - count = -((units (last + 1) : ℚ) - count) := by linarith
      have parity := even (by rw [tie, abs_neg])
      exact .inr ⟨middle, by omega⟩
    · have away := neg_le_abs ((units (last + 1) : ℚ) - count)
      refine absurd closest (not_le.mpr (lt_of_lt_of_le (abs_lt.mpr ⟨?_, ?_⟩) away)) <;> linarith

/-- A finite positive number is nearest to the amounts that are rounded to its bits. -/
theorem nearest_iff_rounds (unsigned : x.negative = false) (finite : x.special = false)
    (bits : x.bits.toNat = last + 1) (positive : 0 ≤ amount) :
    x.Nearest amount ↔ Rounds (last + 1) (amount * unitsOfOne) := by
  constructor
  · intro nearest
    exact rounds_succ_iff.mpr ⟨nearest.not_below finite bits, nearest.below finite bits⟩
  · intro rounds
    have small := bits_lt_infinityBits unsigned finite
    have nearest := nearest_of_rounds positive rounds
    rw [← bits, Nat.min_eq_left small.le] at nearest
    simpa using nearest

/-! ## The interval of a number -/

/-- The parts of a number without a sign. -/
theorem bits_eq_fields (unsigned : x.negative = false) :
    x.bits.toNat = x.exponentField * 2 ^ 52 + x.fraction ∧ x.fraction < 2 ^ 52 := by
  have bound := x.bits.toNat_lt
  rw [negative, decide_eq_false_iff_not] at unsigned
  simp only [exponentField, fraction, twoPow, Nat.pow_eq] at *
  omega

/-- A number counts units by its significand. -/
theorem units_eq_significand (unsigned : x.negative = false) :
    units x.bits.toNat = x.significand * 2 ^ (x.exponentField - 1) := by
  obtain ⟨split, small⟩ := bits_eq_fields unsigned
  have quotient : x.bits.toNat / 2 ^ 52 = x.exponentField := by omega
  have remainder : x.bits.toNat % 2 ^ 52 = x.fraction := by omega
  rw [units, quotient, remainder, significand, twoPow, Nat.pow_eq]
  by_cases none : x.exponentField = 0
  · simp [none]
  · rw [if_neg none, if_neg none]

/-- A quarter of the last place in units. -/
theorem quarter_eq (x : Binary64) :
    4 * (2 ^ (x.scale - 2) * unitsOfOne) = (2 : ℚ) ^ (x.exponentField - 1) := by
  have lowest : (2 : ℚ) ^ (-1074 : Int) * unitsOfOne = 1 := by
    rw [zpow_neg, zpow_ofNat, unitsOfOne]
    exact inv_mul_cancel₀ unitsOfOne_pos.ne'
  rw [zpow_sub₀ two_ne_zero, scale, lowestScale, zpow_add₀ two_ne_zero, zpow_natCast]
  generalize (2 : ℚ) ^ (x.exponentField - 1) = place
  linear_combination place * lowest

/-- The middle behind a number is the upper end of its interval. -/
theorem middle_behind (unsigned : x.negative = false) :
    (units x.bits.toNat : ℚ) + units (x.bits.toNat + 1) =
      2 * ((4 * x.significand + 2) * 2 ^ (x.scale - 2) * unitsOfOne) := by
  obtain ⟨split, small⟩ := bits_eq_fields unsigned
  have quotient : x.bits.toNat / 2 ^ 52 = x.exponentField := by omega
  have quarter := quarter_eq x
  rw [units_succ, quotient, units_eq_significand unsigned]
  push_cast
  linear_combination (-(2 * x.significand : ℚ) - 1) * quarter

/-- The middle in front of a positive number is the lower end of its interval. -/
theorem middle_front (unsigned : x.negative = false) (bits : x.bits.toNat = last + 1) :
    (units last : ℚ) + units (last + 1) =
      2 * ((4 * x.significand - if x.fraction = 0 ∧ 1 < x.exponentField then 1 else 2) *
        2 ^ (x.scale - 2) * unitsOfOne) := by
  obtain ⟨split, small⟩ := bits_eq_fields unsigned
  have quarter := quarter_eq x
  have step : (units (last + 1) : ℚ) = units last + 2 ^ (last / 2 ^ 52 - 1) := by
    exact_mod_cast units_succ last
  have value : (units (last + 1) : ℚ) = x.significand * 2 ^ (x.exponentField - 1) := by
    rw [← bits, units_eq_significand unsigned]
    push_cast
    rfl
  split
  · -- The number in front has its last place half as far away.
    have place : (2 : ℚ) ^ (x.exponentField - 1) = 2 * 2 ^ (last / 2 ^ 52 - 1) := by
      rw [← pow_succ']
      congr 1
      omega
    linear_combination 2 * value - step - (2 * x.significand - 1 / 2 : ℚ) * quarter +
      place / 2
  · have place : last / 2 ^ 52 - 1 = x.exponentField - 1 := by omega
    rw [place] at step
    linear_combination 2 * value - step - (2 * x.significand - 1 : ℚ) * quarter

/-- An amount is rounded to some bits or fewer if it lies in front of the middle behind them, which
itself belongs to even bits. -/
theorem below_iff {bits : Nat} {edge : ℚ}
    (middle : (units bits : ℚ) + units (bits + 1) = 2 * (edge * unitsOfOne)) :
    Below bits (amount * unitsOfOne) ↔ if bits % 2 = 0 then amount ≤ edge else amount < edge := by
  have less : 2 * (amount * unitsOfOne) < 2 * (edge * unitsOfOne) ↔ amount < edge := by
    rw [mul_lt_mul_iff_right₀ two_pos, mul_lt_mul_iff_left₀ unitsOfOne_pos]
  have same : 2 * (amount * unitsOfOne) = 2 * (edge * unitsOfOne) ↔ amount = edge := by
    rw [mul_right_inj' two_ne_zero, mul_left_inj' unitsOfOne_pos.ne']
  rw [Below, middle, less, same]
  split
  · rename_i even
    rw [le_iff_lt_or_eq, and_iff_left even]
  · rename_i odd
    rw [or_iff_left fun both => odd both.2]

/-- A positive number has a positive significand. -/
theorem significand_pos (unsigned : x.negative = false) (bits : x.bits.toNat = last + 1) :
    0 < x.significand := by
  obtain ⟨split, -⟩ := bits_eq_fields unsigned
  simp only [significand, twoPow, Nat.pow_eq]
  split <;> omega

/-- The common denominator of an interval is positive. -/
theorem denominator_pos (x : Binary64) : (0 : ℚ) < (Interval.of x).denominator := by
  simp [Interval.of, twoPow]

/-- A quarter of the last place over the common denominator. -/
theorem twoPow_eq_quarter (x : Binary64) :
    (twoPow (x.scale - 2).toNat : ℚ) = 2 ^ (x.scale - 2) * (Interval.of x).denominator := by
  have positive := denominator_pos x
  rw [zpow_eq_div, Interval.of]
  simp only [twoPow, Nat.pow_eq, Nat.cast_pow, Nat.cast_ofNat]
  field_simp

/-- The lower end of the interval of a positive number. -/
theorem low_eq (some : 0 < x.significand) :
    ((Interval.of x).low : ℚ) =
      (4 * x.significand - if x.fraction = 0 ∧ 1 < x.exponentField then 1 else 2) *
        2 ^ (x.scale - 2) * (Interval.of x).denominator := by
  rw [mul_assoc, ← twoPow_eq_quarter, Interval.of, Nat.cast_mul]
  split
  · rw [Nat.cast_sub (by omega)]
    push_cast
    rfl
  · rw [Nat.cast_sub (by omega)]
    push_cast
    rfl

/-- The upper end of the interval of a number. -/
theorem high_eq (x : Binary64) :
    ((Interval.of x).high : ℚ) =
      (4 * x.significand + 2) * 2 ^ (x.scale - 2) * (Interval.of x).denominator := by
  rw [mul_assoc, ← twoPow_eq_quarter, Interval.of]
  push_cast
  rfl

/-- A number without a sign over the common denominator of its interval. -/
theorem value_eq (unsigned : x.negative = false) :
    ((Interval.of x).value : ℚ) = x.toRat * (Interval.of x).denominator := by
  have quarter : (2 : ℚ) ^ x.scale = 4 * 2 ^ (x.scale - 2) := by
    rw [zpow_sub₀ two_ne_zero]
    ring
  rw [toRat, unsigned, quarter, if_neg Bool.false_ne_true, one_mul, ← mul_assoc, mul_assoc,
    ← twoPow_eq_quarter, Interval.of]
  push_cast
  ring

/-- The interval of a finite positive number holds the amounts that the number is nearest to. -/
theorem contains_iff_nearest (unsigned : x.negative = false) (finite : x.special = false)
    (bits : x.bits.toNat = last + 1) (positive : 0 ≤ amount) :
    (Interval.of x).Contains amount ↔ x.Nearest amount := by
  have front := middle_front unsigned bits
  have behind := middle_behind unsigned
  have parity := significand_mod_two x
  rw [bits] at behind parity
  have closed : (Interval.of x).closed = true ↔ (last + 1) % 2 = 0 := by
    rw [Interval.of, decide_eq_true_eq, parity]
  have divisor := denominator_pos x
  rw [nearest_iff_rounds unsigned finite bits positive, rounds_succ_iff, below_iff front,
    below_iff behind, Interval.Contains, low_eq (significand_pos unsigned bits), high_eq]
  simp only [mul_le_mul_iff_left₀ divisor, mul_lt_mul_iff_left₀ divisor, closed]
  -- An end belongs to the number if the number is even, since its neighbour is odd then.
  by_cases even : (last + 1) % 2 = 0
  · rw [if_pos even, if_pos even, if_neg (by omega : ¬ last % 2 = 0), not_lt]
  · rw [if_neg even, if_neg even, if_pos (by omega : last % 2 = 0), not_le]

end Binary64

/-! ## Grids -/

namespace Interval

variable {interval : Interval} {first second third : ℚ}

/-- What lies between two amounts of an interval lies in the interval. -/
theorem Contains.between (low : interval.Contains first) (high : interval.Contains third)
    (above : first ≤ second) (below : second ≤ third) : interval.Contains second := by
  have scale : (0 : ℚ) ≤ interval.denominator := Nat.cast_nonneg _
  have above := mul_le_mul_of_nonneg_right above scale
  have below := mul_le_mul_of_nonneg_right below scale
  unfold Contains at *
  split at low
  · rename_i closed
    rw [if_pos closed] at high ⊢
    exact ⟨low.1.trans above, below.trans high.2⟩
  · rename_i other
    rw [if_neg other] at high ⊢
    exact ⟨low.1.trans_le above, below.trans_lt high.2⟩

section Neighbours

variable {middle step ratio : ℚ} {below digits : Nat} (positive : 0 < step)
  (split : middle = (below + ratio) * step)
include positive split

/-- The distance of an amount from the multiple below it. -/
theorem distance_below (start : 0 ≤ ratio) : |below * step - middle| = ratio * step := by
  rw [split, ← sub_mul, sub_add_cancel_left, neg_mul, abs_neg]
  exact abs_of_nonneg (mul_nonneg start positive.le)

/-- The distance of an amount from the multiple above it. -/
theorem distance_above (stop : ratio ≤ 1) :
    |((below + 1 : Nat) : ℚ) * step - middle| = (1 - ratio) * step := by
  rw [split, ← sub_mul, Nat.cast_succ, add_sub_add_left_eq_sub]
  exact abs_of_nonneg (mul_nonneg (sub_nonneg.mpr stop) positive.le)

/-- The multiple below an amount is the closest one on its side, and lies in an interval around the
amount if any multiple on its side does. -/
theorem Contains.closest_below (start : 0 ≤ ratio) (inside : interval.Contains middle)
    (less : digits ≤ below) (other : interval.Contains (digits * step)) :
    interval.Contains (below * step) ∧ |below * step - middle| ≤ |digits * step - middle| := by
  have order : (digits : ℚ) * step ≤ below * step :=
    mul_le_mul_of_nonneg_right (Nat.cast_le.mpr less) positive.le
  have far := neg_le_abs (digits * step - middle)
  have gap := mul_nonneg start positive.le
  rw [distance_below positive split start]
  rw [add_mul] at split
  exact ⟨other.between inside order (by linarith), by linarith⟩

/-- The multiple above an amount is the closest one on its side, and lies in an interval around the
amount if any multiple on its side does. -/
theorem Contains.closest_above (stop : ratio ≤ 1) (inside : interval.Contains middle)
    (more : below < digits) (other : interval.Contains (digits * step)) :
    interval.Contains ((below + 1 : Nat) * step) ∧
      |((below + 1 : Nat) : ℚ) * step - middle| ≤ |digits * step - middle| := by
  have order : ((below + 1 : Nat) : ℚ) * step ≤ digits * step :=
    mul_le_mul_of_nonneg_right (Nat.cast_le.mpr more) positive.le
  have far := le_abs_self (digits * step - middle)
  have gap := mul_le_mul_of_nonneg_right stop positive.le
  rw [distance_above positive split stop]
  rw [add_mul] at split
  rw [Nat.cast_succ, add_mul] at order ⊢
  exact ⟨inside.between other (by linarith) order, by linarith⟩

end Neighbours

/-- A decimal is the multiple of a power of ten that lies in an interval, closest to its middle. -/
structure Hits (interval : Interval) (exponent : Int) (found : Scaled) : Prop where
  /-- It is a multiple of this power of ten. -/
  grid : found.exponent = exponent
  /-- It lies in the interval. -/
  inside : interval.Contains (found.digits * 10 ^ exponent)
  /-- No other multiple in the interval lies closer to its middle. -/
  closest : ∀ digits : Nat, interval.Contains (digits * 10 ^ exponent) →
    |(found.digits : ℚ) * 10 ^ exponent - interval.value / interval.denominator| ≤
      |(digits : ℚ) * 10 ^ exponent - interval.value / interval.denominator|

variable (divisor : 0 < interval.denominator) (exponent : Int)
include divisor

/-- A multiple of a power of ten lies in an interval if the numerators say so. -/
theorem holds_iff (count : Nat) :
    interval.holds (tenPow (-exponent).toNat)
        (count * (interval.denominator * tenPow exponent.toNat)) = true ↔
      interval.Contains (count * 10 ^ exponent) := by
  have factor : (0 : ℚ) < tenPow (-exponent).toNat := by simp [tenPow]
  have scaled : (count : ℚ) * 10 ^ exponent * interval.denominator * tenPow (-exponent).toNat =
      (count * (interval.denominator * tenPow exponent.toNat) : Nat) := by
    rw [zpow_eq_div]
    simp only [tenPow, Nat.pow_eq, Nat.cast_mul, Nat.cast_pow, Nat.cast_ofNat]
    field_simp
  rw [holds, Contains]
  generalize (count : ℚ) * 10 ^ exponent * interval.denominator = amount at *
  generalize count * (interval.denominator * tenPow exponent.toNat) = numerator at *
  have reaches (edge : Nat) :
      (edge : ℚ) ≤ amount ↔ edge * tenPow (-exponent).toNat ≤ numerator := by
    rw [← mul_le_mul_iff_left₀ factor, scaled]
    exact_mod_cast Iff.rfl
  have stays (edge : Nat) : amount ≤ edge ↔ numerator ≤ edge * tenPow (-exponent).toNat := by
    rw [← mul_le_mul_iff_left₀ factor, scaled]
    exact_mod_cast Iff.rfl
  split
  · rw [Bool.and_eq_true, decide_eq_true_eq, decide_eq_true_eq, reaches, stays]
  · rw [Bool.and_eq_true, decide_eq_true_eq, decide_eq_true_eq, ← not_le, ← not_le, ← stays,
      ← reaches, not_le, not_le]

/-- The middle of an interval on a grid: the multiple that it reaches, and how much of the way to
the next one it has gone. -/
theorem exists_ratio :
    ∃ ratio : ℚ, 0 ≤ ratio ∧ ratio < 1 ∧
      (interval.value : ℚ) / interval.denominator =
        ((interval.value * tenPow (-exponent).toNat /
          (interval.denominator * tenPow exponent.toNat) : Nat) + ratio) * 10 ^ exponent ∧
      (interval.denominator * tenPow exponent.toNat ≤
        2 * (interval.value * tenPow (-exponent).toNat %
          (interval.denominator * tenPow exponent.toNat)) ↔ 1 ≤ 2 * ratio) := by
  generalize shown : interval.denominator * tenPow exponent.toNat = step
  generalize scaled : interval.value * tenPow (-exponent).toNat = value
  have positive : 0 < step := by
    rw [← shown]
    exact Nat.mul_pos divisor (Nat.pow_pos (by decide))
  have steps : (0 : ℚ) < step := Nat.cast_pos.mpr positive
  have whole : (0 : ℚ) < interval.denominator := Nat.cast_pos.mpr divisor
  have factor : (0 : ℚ) < tenPow (-exponent).toNat := by simp [tenPow]
  refine ⟨(value % step : Nat) / step, by positivity, ?_, ?_, ?_⟩
  · rw [div_lt_one steps]
    exact_mod_cast Nat.mod_lt value positive
  · have split : (value : ℚ) = step * (value / step : Nat) + (value % step : Nat) := by
      exact_mod_cast (Nat.div_add_mod value step).symm
    have joined : ((value / step : Nat) + ((value % step : Nat) : ℚ) / step) = value / step := by
      rw [split]
      field_simp
    rw [joined, zpow_eq_div, ← scaled, ← shown]
    simp only [tenPow, Nat.pow_eq, Nat.cast_mul, Nat.cast_pow, Nat.cast_ofNat]
    field_simp
  · rw [← mul_div_assoc, one_le_div₀ steps]
    exact_mod_cast Iff.rfl

/-- A grid is hit where it meets the interval, by the multiple that lies closest. -/
theorem onGrid_cases (middle : interval.Contains (interval.value / interval.denominator)) :
    (∃ found, interval.onGrid exponent = some found ∧ interval.Hits exponent found) ∨
      interval.onGrid exponent = none ∧
        ∀ digits : Nat, ¬ interval.Contains (digits * 10 ^ exponent) := by
  obtain ⟨ratio, start, stop, split, test⟩ := exists_ratio divisor exponent
  have inside := holds_iff divisor exponent
  unfold onGrid
  dsimp only
  generalize interval.value * tenPow (-exponent).toNat /
    (interval.denominator * tenPow exponent.toNat) = below at *
  have power : (0 : ℚ) < 10 ^ exponent := zpow_pos (by norm_num) _
  have lower {digits : Nat} := @Contains.closest_below _ _ _ _ below digits power split start middle
  have upper {digits : Nat} :=
    @Contains.closest_above _ _ _ _ below digits power split stop.le middle
  have atLower := distance_below power split start
  have atUpper := distance_above power split stop.le
  split
  · rename_i chosen
    simp only [Bool.and_eq_true, Bool.or_eq_true, Bool.not_eq_true', ← Bool.not_eq_true, inside,
      decide_eq_true_eq, test] at chosen
    refine .inl ⟨_, rfl, rfl, chosen.1, fun digits other => ?_⟩
    rcases Nat.lt_or_ge below digits with more | less
    · exact (upper more other).2
    · obtain ⟨reached, far⟩ := lower less other
      have nearer : 1 ≤ 2 * ratio := chosen.2.resolve_left (not_not_intro reached)
      refine le_trans ?_ far
      rw [atLower, atUpper]
      exact mul_le_mul_of_nonneg_right (by linarith) power.le
  · rename_i refused
    simp only [Bool.and_eq_true, Bool.or_eq_true, Bool.not_eq_true', ← Bool.not_eq_true, inside,
      decide_eq_true_eq, test] at refused
    split
    · rename_i reached
      rw [inside] at reached
      refine .inl ⟨_, rfl, rfl, reached, fun digits other => ?_⟩
      rcases Nat.lt_or_ge below digits with more | less
      · obtain ⟨reachedToo, far⟩ := upper more other
        have nearer : ¬ 1 ≤ 2 * ratio := fun nearer => refused ⟨reachedToo, .inr nearer⟩
        refine le_trans ?_ far
        rw [atLower, atUpper]
        exact mul_le_mul_of_nonneg_right (by linarith) power.le
      · exact (lower less other).2
    · rename_i missed
      rw [inside] at missed
      refine .inr ⟨rfl, fun digits other => ?_⟩
      rcases Nat.lt_or_ge below digits with more | less
      · exact refused ⟨(upper more other).1, .inl missed⟩
      · exact missed (lower less other).1

/-- The search hits the first grid that meets the interval, if one of those searched does. -/
theorem search_hits (middle : interval.Contains (interval.value / interval.denominator))
    {rounds : Nat}
    (bottom : ∃ digits : Nat, interval.Contains (digits * 10 ^ (exponent - rounds))) :
    ∃ grid ≤ exponent, interval.Hits grid (interval.search exponent rounds) ∧
      ∀ other, grid < other → other ≤ exponent →
        ∀ digits : Nat, ¬ interval.Contains (digits * 10 ^ other) := by
  induction rounds generalizing exponent with
  | zero =>
    rcases onGrid_cases divisor exponent middle with ⟨found, hit, hits⟩ | ⟨-, none⟩
    · refine ⟨exponent, le_rfl, ?_, fun other more less => by omega⟩
      rw [search, hit]
      exact hits
    · obtain ⟨digits, inside⟩ := bottom
      rw [Nat.cast_zero, sub_zero] at inside
      exact absurd inside (none digits)
  | succ rounds ih =>
    rcases onGrid_cases divisor exponent middle with ⟨found, hit, hits⟩ | ⟨missed, none⟩
    · refine ⟨exponent, le_rfl, ?_, fun other more less => by omega⟩
      rw [search, hit]
      exact hits
    · have same : exponent - (rounds + 1 : Nat) = exponent - 1 - rounds := by omega
      rw [same] at bottom
      obtain ⟨grid, less, hits, before⟩ := ih (exponent - 1) bottom
      refine ⟨grid, by omega, ?_, fun other more within => ?_⟩
      · rw [search, missed]
        exact hits
      · rcases Int.lt_or_eq_of_le within with earlier | rfl
        · exact before other more (by omega)
        · exact none

end Interval

/-! ## Powers of two and of ten -/

/-- Powers with an exponent that is not positive turn the order of their bases around. -/
theorem zpow_le_zpow_of_nonpos {low high : ℚ} {exponent : Int} (positive : 0 < low)
    (less : low ≤ high) (negative : exponent ≤ 0) : high ^ exponent ≤ low ^ exponent := by
  have bigger := positive.trans_le less
  rw [← inv_le_inv₀ (zpow_pos positive _) (zpow_pos bigger _), ← zpow_neg, ← zpow_neg]
  exact zpow_le_zpow_left₀ (by omega) positive.le less

/-- The power of ten that comes closest to a power of two, from below. -/
theorem ten_zpow_closest :
    (10 : ℚ) ^ (1233 : Int) ≤ 2 ^ (4096 : Int) ∧ (2 : ℚ) ^ (4095 : Int) ≤ 10 ^ (1233 : Int) := by
  rw [zpow_ofNat, zpow_ofNat, zpow_ofNat]
  exact ⟨by exact_mod_cast (by decide +kernel : 10 ^ 1233 ≤ 2 ^ 4096),
    by exact_mod_cast (by decide +kernel : 2 ^ 4095 ≤ 10 ^ 1233)⟩

/-- A power of ten is no greater than a power of two, if its exponent is small enough. -/
theorem ten_zpow_le {ten two : Int} (small : 4096 * ten ≤ 1233 * two) (least : -1233 ≤ ten) :
    (10 : ℚ) ^ ten ≤ 2 ^ (two + 1) := by
  obtain ⟨upper, lower⟩ := ten_zpow_closest
  rw [← zpow_le_zpow_iff_left₀ (by positivity) (by positivity) (by decide : (0 : Int) < 1233),
    ← zpow_mul, ← zpow_mul, mul_comm, zpow_mul]
  rcases le_total 0 ten with positive | negative
  · calc ((10 : ℚ) ^ (1233 : Int)) ^ ten
      _ ≤ (2 ^ (4096 : Int)) ^ ten := zpow_le_zpow_left₀ positive (by positivity) upper
      _ = 2 ^ (4096 * ten) := (zpow_mul _ _ _).symm
      _ ≤ 2 ^ ((two + 1) * 1233) := zpow_le_zpow_right₀ one_le_two (by omega)
  · calc ((10 : ℚ) ^ (1233 : Int)) ^ ten
      _ ≤ (2 ^ (4095 : Int)) ^ ten := zpow_le_zpow_of_nonpos (by positivity) lower negative
      _ = 2 ^ (4095 * ten) := (zpow_mul _ _ _).symm
      _ ≤ 2 ^ ((two + 1) * 1233) := zpow_le_zpow_right₀ one_le_two (by omega)

/-- A power of two is less than twice a power of ten, if its exponent is small enough. -/
theorem two_zpow_lt {two ten : Int} (small : 1233 * two < 4096 * ten) (most : ten ≤ 1233) :
    (2 : ℚ) ^ two < 2 * 10 ^ ten := by
  obtain ⟨upper, lower⟩ := ten_zpow_closest
  rw [← zpow_lt_zpow_iff_left₀ (by positivity) (by positivity) (by decide : (0 : Int) < 1233),
    mul_zpow, ← zpow_mul, ← zpow_mul, mul_comm ten, zpow_mul 10]
  rcases le_total 0 ten with positive | negative
  · calc (2 : ℚ) ^ (two * 1233)
      _ < 2 ^ (1233 + 4095 * ten) := zpow_lt_zpow_right₀ one_lt_two (by omega)
      _ = 2 ^ (1233 : Int) * (2 ^ (4095 : Int)) ^ ten := by rw [zpow_add₀ two_ne_zero, zpow_mul]
      _ ≤ 2 ^ (1233 : Int) * (10 ^ (1233 : Int)) ^ ten := by
        have power := zpow_le_zpow_left₀ positive (by positivity) lower
        gcongr
  · calc (2 : ℚ) ^ (two * 1233)
      _ < 2 ^ (1233 + 4096 * ten) := zpow_lt_zpow_right₀ one_lt_two (by omega)
      _ = 2 ^ (1233 : Int) * (2 ^ (4096 : Int)) ^ ten := by rw [zpow_add₀ two_ne_zero, zpow_mul]
      _ ≤ 2 ^ (1233 : Int) * (10 ^ (1233 : Int)) ^ ten := by
        have power := zpow_le_zpow_of_nonpos (by positivity) upper negative
        gcongr

/-! ## The shortest decimal -/

namespace Binary64

variable {x : Binary64} {amount : ℚ} {last : Nat}

/-- A number without a sign counts its quarters. -/
theorem toRat_eq_quarters (unsigned : x.negative = false) :
    x.toRat = 4 * x.significand * 2 ^ (x.scale - 2) := by
  rw [toRat, unsigned, zpow_sub₀ two_ne_zero, if_neg Bool.false_ne_true]
  ring

/-- The interval goes at least a quarter of the last place below the number, and two above. -/
theorem contains_of_lt (unsigned : x.negative = false) (bits : x.bits.toNat = last + 1)
    (above : x.toRat - 2 ^ (x.scale - 2) < amount)
    (below : amount < x.toRat + 2 * 2 ^ (x.scale - 2)) : (Interval.of x).Contains amount := by
  have divisor := denominator_pos x
  have quarter : (0 : ℚ) < 2 ^ (x.scale - 2) := zpow_pos two_pos _
  rw [toRat_eq_quarters unsigned] at above below
  have low : ((Interval.of x).low : ℚ) < amount * (Interval.of x).denominator := by
    rw [low_eq (significand_pos unsigned bits), mul_lt_mul_iff_left₀ divisor]
    split <;> linarith
  have high : amount * (Interval.of x).denominator < ((Interval.of x).high : ℚ) := by
    rw [high_eq, mul_lt_mul_iff_left₀ divisor]
    linarith
  rw [Interval.Contains]
  split
  · exact ⟨low.le, high.le⟩
  · exact ⟨low, high⟩

/-- The amounts in the interval are positive and at most half as large again as the number. -/
theorem bounds_of_contains (unsigned : x.negative = false) (bits : x.bits.toNat = last + 1)
    (inside : (Interval.of x).Contains amount) : 0 < amount ∧ 2 * amount ≤ 3 * x.toRat := by
  have divisor := denominator_pos x
  have quarter : (0 : ℚ) < 2 ^ (x.scale - 2) := zpow_pos two_pos _
  have some : (1 : ℚ) ≤ x.significand := by exact_mod_cast significand_pos unsigned bits
  have ends : ((Interval.of x).low : ℚ) ≤ amount * (Interval.of x).denominator ∧
      amount * (Interval.of x).denominator ≤ (Interval.of x).high := by
    unfold Interval.Contains at inside
    split at inside
    · exact inside
    · exact ⟨inside.1.le, inside.2.le⟩
  rw [low_eq (significand_pos unsigned bits), high_eq, mul_le_mul_iff_left₀ divisor,
    mul_le_mul_iff_left₀ divisor] at ends
  rw [toRat_eq_quarters unsigned]
  constructor
  · refine lt_of_lt_of_le (mul_pos ?_ quarter) ends.1
    split <;> linarith
  · nlinarith [ends.2]

/-- The middle of the interval of a number is the number. -/
theorem value_div_denominator (unsigned : x.negative = false) :
    ((Interval.of x).value : ℚ) / (Interval.of x).denominator = x.toRat := by
  rw [value_eq unsigned, mul_div_cancel_right₀ _ (denominator_pos x).ne']

/-- All scales are within the exponents of sixty-four bits. -/
theorem scale_bounds (x : Binary64) : -1074 ≤ x.scale ∧ x.scale ≤ 972 := by
  have field : x.exponentField < 2048 := by
    simp only [exponentField, twoPow, Nat.pow_eq]
    omega
  simp only [scale, lowestScale]
  omega

/-- Where the search begins: a positive number lies between two powers of two, not far above the
scale of the number. -/
theorem exists_log (unsigned : x.negative = false) (bits : x.bits.toNat = last + 1) :
    ∃ log : Int, (Interval.of x).topExponent = log * 1233 / 4096 + 2 ∧
      (2 : ℚ) ^ log ≤ x.toRat ∧ x.toRat < 2 ^ (log + 1) ∧ x.scale ≤ log ∧ log ≤ x.scale + 52 := by
  have some := significand_pos unsigned bits
  have numerator : 0 < (Interval.of x).value :=
    Nat.mul_pos (by omega) (Nat.pow_pos (by decide))
  have divisor : 0 < (Interval.of x).denominator := Nat.pow_pos (by decide)
  obtain ⟨low, high⟩ := log2Quotient_spec numerator divisor
  rw [value_div_denominator unsigned] at low high
  rw [Interval.topExponent, Int.fdiv_eq_ediv_of_nonneg _ (by decide)]
  generalize log2Quotient (Interval.of x).value (Interval.of x).denominator = log at *
  have one : (1 : ℚ) ≤ x.significand := by exact_mod_cast some
  have most : (x.significand : ℚ) < 2 ^ 53 := by
    obtain ⟨-, small⟩ := bits_eq_fields unsigned
    have bound : x.significand < 2 ^ 53 := by
      simp only [significand, twoPow, Nat.pow_eq]
      split <;> omega
    exact_mod_cast bound
  have power : (0 : ℚ) < 2 ^ x.scale := zpow_pos two_pos _
  have value : x.toRat = x.significand * 2 ^ x.scale := by
    rw [toRat, unsigned, if_neg Bool.false_ne_true, one_mul]
  refine ⟨log, rfl, low, high, ?_, ?_⟩
  · have less : (2 : ℚ) ^ x.scale < 2 ^ (log + 1) := by nlinarith
    have less := (zpow_lt_zpow_iff_right₀ one_lt_two).mp less
    omega
  · have less : (2 : ℚ) ^ log < 2 ^ (53 + x.scale) := by
      rw [zpow_add₀ two_ne_zero, zpow_ofNat]
      nlinarith
    have less := (zpow_lt_zpow_iff_right₀ one_lt_two).mp less
    omega

/-- Above the grid where the search begins no multiple lies in the interval. -/
theorem not_contains_of_top_lt (unsigned : x.negative = false) (bits : x.bits.toNat = last + 1)
    {exponent : Int} (above : (Interval.of x).topExponent < exponent) (digits : Nat) :
    ¬ (Interval.of x).Contains (digits * 10 ^ exponent) := by
  intro inside
  obtain ⟨positive, small⟩ := bounds_of_contains unsigned bits inside
  obtain ⟨log, top, -, high, -, near⟩ := exists_log unsigned bits
  have scale := scale_bounds x
  rw [top] at above
  generalize cut : log * 1233 / 4096 = ten at *
  have power : (2 : ℚ) ^ log < 2 * 10 ^ (ten + 1) := two_zpow_lt (by omega) (by omega)
  have tens : (100 : ℚ) * 10 ^ (ten + 1) ≤ 10 ^ exponent := by
    have shift : (100 : ℚ) * 10 ^ (ten + 1) = 10 ^ (2 + (ten + 1)) := by
      rw [zpow_add₀ (by norm_num) 2]
      norm_num
    rw [shift]
    exact zpow_le_zpow_right₀ (by norm_num) (by omega)
  have some : (1 : ℚ) ≤ digits := by
    have nonzero : digits ≠ 0 := by
      rintro rfl
      simp at positive
    exact_mod_cast Nat.one_le_iff_ne_zero.mpr nonzero
  have least : (10 : ℚ) ^ exponent ≤ digits * 10 ^ exponent :=
    le_mul_of_one_le_left (zpow_pos (by norm_num) _).le some
  rw [zpow_add_one₀ two_ne_zero] at high
  linarith [zpow_pos (by norm_num : (0 : ℚ) < 10) (ten + 1)]

/-- The last grid that is searched meets the interval. -/
theorem contains_bottom (unsigned : x.negative = false) (bits : x.bits.toNat = last + 1) :
    ∃ digits : Nat, (Interval.of x).Contains
      (digits * 10 ^ ((Interval.of x).topExponent - (20 : Nat))) := by
  obtain ⟨log, top, -, -, far, near⟩ := exists_log unsigned bits
  have scale := scale_bounds x
  rw [top]
  generalize cut : log * 1233 / 4096 = ten at *
  have shift : ten + 2 - (20 : Nat) = -18 + ten := by omega
  rw [shift]
  have power : (10 : ℚ) ^ ten ≤ 2 ^ (log + 1) := ten_zpow_le (by omega) (by omega)
  have close : (10 : ℚ) ^ (-18 + ten) ≤ 2 ^ (x.scale - 2) := by
    calc (10 : ℚ) ^ (-18 + ten)
      _ = 10 ^ (-18 : Int) * 10 ^ ten := zpow_add₀ (by norm_num) _ _
      _ ≤ 2 ^ (-55 : Int) * 2 ^ (log + 1) := by
        refine mul_le_mul (by norm_num) power (by positivity) (by positivity)
      _ = 2 ^ (-55 + (log + 1)) := (zpow_add₀ two_ne_zero _ _).symm
      _ ≤ 2 ^ (x.scale - 2) := zpow_le_zpow_right₀ one_le_two (by omega)
  have positive : (0 : ℚ) < 10 ^ (-18 + ten) := zpow_pos (by norm_num) _
  generalize (10 : ℚ) ^ (-18 + ten) = step at *
  have value : 0 ≤ x.toRat := by
    rw [toRat_eq_quarters unsigned]
    positivity
  -- The multiple below the number lies less than one step away from it.
  refine ⟨⌊x.toRat / step⌋₊, contains_of_lt unsigned bits ?_ ?_⟩
  · have floor := Nat.lt_floor_add_one (x.toRat / step)
    rw [div_lt_iff₀ positive, add_mul, one_mul] at floor
    linarith
  · have floor := Nat.floor_le (div_nonneg value positive.le)
    rw [le_div_iff₀ positive] at floor
    linarith [zpow_pos (two_pos : (0 : ℚ) < 2) (x.scale - 2)]

/-- A decimal is taken to the number that is nearest to it. -/
theorem ofDecimal_eq_iff (digits : Nat) (exponent : Int) :
    ofDecimal digits exponent = x ↔ x.Nearest (digits * 10 ^ exponent) :=
  ⟨fun same => same ▸ ofDecimal_nearest digits exponent,
    fun nearest => (ofDecimal_nearest digits exponent).unique nearest⟩

end Binary64

/-- A decimal is the shortest one that is taken to a number, and of these the closest one. -/
structure Scaled.Shortest (decimal : Scaled) (x : Binary64) : Prop where
  /-- It is taken to the number. -/
  reads : Binary64.ofDecimal decimal.digits decimal.exponent = x
  /-- No multiple of a greater power of ten is. -/
  coarsest : ∀ (digits : Nat) (exponent : Int), decimal.exponent < exponent →
    Binary64.ofDecimal digits exponent ≠ x
  /-- No multiple of the same power of ten that is lies closer to the number. -/
  closest : ∀ digits : Nat, Binary64.ofDecimal digits decimal.exponent = x →
    |(decimal.digits : ℚ) * 10 ^ decimal.exponent - x.toRat| ≤
      |(digits : ℚ) * 10 ^ decimal.exponent - x.toRat|

/-- A finite positive number is written with the shortest decimal that is taken to it. -/
theorem Binary64.shortest_spec {x : Binary64} (unsigned : x.negative = false)
    (finite : x.special = false) (some : x.significand ≠ 0) : x.shortest.Shortest x := by
  obtain ⟨last, bits⟩ : ∃ last, x.bits.toNat = last + 1 := by
    refine Nat.exists_eq_succ_of_ne_zero fun zero => some ?_
    simp [significand, exponentField, fraction, zero]
  have reads (digits : Nat) (exponent : Int) :
      ofDecimal digits exponent = x ↔ (Interval.of x).Contains (digits * 10 ^ exponent) := by
    rw [ofDecimal_eq_iff, contains_iff_nearest unsigned finite bits (by positivity)]
  have divisor : 0 < (Interval.of x).denominator := Nat.pow_pos (by decide)
  have quarter : (0 : ℚ) < 2 ^ (x.scale - 2) := zpow_pos two_pos _
  have middle := contains_of_lt unsigned bits (sub_lt_self x.toRat quarter) (by linarith)
  rw [← value_div_denominator unsigned] at middle
  obtain ⟨grid, -, hits, before⟩ :=
    Interval.search_hits divisor (Interval.of x).topExponent middle (contains_bottom unsigned bits)
  have same : x.shortest.exponent = grid := hits.grid
  refine ⟨?_, fun digits exponent coarser => ?_, fun digits taken => ?_⟩
  · rw [reads, same]
    exact hits.inside
  · rw [Ne, reads]
    rw [same] at coarser
    rcases le_or_gt exponent (Interval.of x).topExponent with searched | above
    · exact before exponent coarser searched digits
    · exact not_contains_of_top_lt unsigned bits above digits
  · rw [reads, same] at taken
    rw [same, ← value_div_denominator unsigned]
    exact hits.closest digits taken

end Cpplet.Decimal

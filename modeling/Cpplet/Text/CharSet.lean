/-!
# Sets of characters

A property of characters is a list of ranges of code points in ascending order. Membership
stops at the first range that lies above the character, so it is quick for the low code points
that make up most sources.
-/

namespace Cpplet.Text

/-- A set of characters, as ascending ranges of code points with both ends included. -/
structure CharSet where
  /-- The ranges, lowest first. -/
  ranges : List (Nat × Nat)

namespace CharSet

/-- Whether one of the ascending ranges holds a code point. -/
def covers : List (Nat × Nat) → Nat → Bool
  | [], _ => false
  | (low, high) :: above, code =>
    if code < low then false else if code ≤ high then true else covers above code

/-- Whether a character belongs to the set. -/
def contains (set : CharSet) (c : Char) : Bool := covers set.ranges c.toNat

/-- What is covered lies in one of the ranges. -/
theorem exists_range_of_covers {ranges : List (Nat × Nat)} {code : Nat}
    (covered : covers ranges code = true) :
    ∃ range ∈ ranges, range.1 ≤ code ∧ code ≤ range.2 := by
  induction ranges with
  | nil => simp [covers] at covered
  | cons range above ih =>
    obtain ⟨low, high⟩ := range
    by_cases below : code < low
    · simp [covers, below] at covered
    · by_cases within : code ≤ high
      · exact ⟨(low, high), by simp, by simpa using below, within⟩
      · obtain ⟨found, member, bounds⟩ := ih (by simpa [covers, below, within] using covered)
        exact ⟨found, by simp [member], bounds⟩

/-- Sets whose ranges lie apart have no character in common. -/
theorem contains_eq_false_of_apart {first second : CharSet}
    (apart : (first.ranges.all fun left => second.ranges.all fun right =>
      left.2 < right.1 || right.2 < left.1) = true)
    {c : Char} (inside : first.contains c = true) : second.contains c = false := by
  rw [← Bool.not_eq_true]
  intro also
  obtain ⟨left, listed, low, high⟩ := exists_range_of_covers inside
  obtain ⟨right, listedToo, lowToo, highToo⟩ := exists_range_of_covers also
  have between := List.all_eq_true.mp (List.all_eq_true.mp apart left listed) right listedToo
  simp only [Bool.or_eq_true, decide_eq_true_eq] at between
  omega

end CharSet

end Cpplet.Text

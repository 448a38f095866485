import Cpplet.Lexeme.Number
import Cpplet.Proofs.Rounding
import Mathlib.Data.Nat.Digits.Defs

/-!
# The rules of numbers

What a number is and what it denotes, said without reading one. A number has its parts in order
(`Numeral.Proper`), and what stands behind it prolongs none of them (`Numeral.Ends`). Its digits
count ones, tens and so on before the point, tenths, hundredths and so on behind it, all shifted
by the exponent (`Numeral.value`).

The laws: a number is read with all its parts (`Numeral.of_text_append`), what is read is one but
for missing digits of the exponent (`Numeral.proper_of`), and a number with a point or an exponent
is read as the floating-point number nearest to its value (`Numeral.toBinary64_nearest`), where the
conversion of its characters never fails (`Numeral.ofText?_shown`).
-/

namespace Cpplet

open Decimal (Binary64)

/-! ## Runs of a class -/

/-- A text does not begin with a character of a class. -/
def Stops (test : Char → Bool) (behind : List Char) : Prop := ∀ c ∈ behind.head?, test c = false

namespace Stops

/-- Nothing begins an empty text. -/
theorem nil (test : Char → Bool) : Stops test [] := by
  intro c first
  cases first

/-- A text begins with its first character. -/
theorem cons_iff {test : Char → Bool} {c : Char} {rest : List Char} :
    Stops test (c :: rest) ↔ test c = false := by
  simp [Stops]

/-- Behind the longest run of a class no character of it follows. -/
theorem drop_takeWhile (test : Char → Bool) (input : List Char) :
    Stops test (input.drop (input.takeWhile test).length) := by
  induction input with
  | nil => exact nil test
  | cons c rest ih =>
    by_cases inside : test c = true
    · rw [List.takeWhile_cons_of_pos inside]
      exact ih
    · rw [List.takeWhile_cons_of_neg inside]
      exact cons_iff.mpr (Bool.not_eq_true _ ▸ inside)

/-- A run of a class is the longest one where no character of it follows. -/
theorem takeWhile_append {test : Char → Bool} {run behind : List Char}
    (stops : Stops test behind) (inside : ∀ c ∈ run, test c = true) :
    (run ++ behind).takeWhile test = run := by
  have nothing : behind.takeWhile test = [] := by
    cases behind with
    | nil => rfl
    | cons c rest => rw [List.takeWhile_cons_of_neg (by simp [cons_iff.mp stops])]
  rw [List.takeWhile_append_of_pos inside, nothing, List.append_nil]

end Stops

/-- The longest run of a class holds nothing else. -/
theorem inside_of_mem_takeWhile {test : Char → Bool} {input : List Char} {c : Char}
    (member : c ∈ input.takeWhile test) : test c = true :=
  List.all_eq_true.mp List.all_takeWhile c member

/-- What begins a text and what stands behind it make up the text. -/
theorem eq_append_drop {text input : List Char} (front : text <+: input) :
    input = text ++ input.drop text.length :=
  (List.prefix_iff_eq_append.mp front).symm

/-- One character of a class is taken off the front of a text, where there is one. -/
theorem filter_take_one_cases (test : Char → Bool) (input : List Char) :
    (input.take 1).filter test = [] ∧ Stops test input ∨
      ∃ c rest, input = c :: rest ∧ test c = true ∧ (input.take 1).filter test = [c] := by
  cases input with
  | nil => exact .inl ⟨rfl, Stops.nil test⟩
  | cons c rest =>
    cases inside : test c with
    | true => exact .inr ⟨c, rest, rfl, inside, by simp [inside]⟩
    | false => exact .inl ⟨by simp [inside], Stops.cons_iff.mpr inside⟩

/-- What is taken off the front of a text begins it. -/
theorem filter_take_one_begins (test : Char → Bool) (input : List Char) :
    (input.take 1).filter test <+: input := by
  rcases filter_take_one_cases test input with ⟨nothing, -⟩ | ⟨c, rest, rfl, -, taken⟩
  · rw [nothing]
    exact List.nil_prefix
  · rw [taken]
    exact ⟨rest, rfl⟩

/-- Nothing is taken off a text that does not begin with a character of the class. -/
theorem Stops.filter_take_one {test : Char → Bool} {input : List Char} (stops : Stops test input) :
    (input.take 1).filter test = [] := by
  cases input with
  | nil => rfl
  | cons c rest => simp [cons_iff.mp stops]

/-! ## The parts of a number -/

/-- An exponent as the rules have it. -/
structure Exponent.Proper (exponent : Exponent) : Prop where
  /-- It begins with its letter. -/
  letter : Exponent.isLetter exponent.letter = true
  /-- One sign may follow. -/
  sign : exponent.sign = [] ∨ ∃ c, Exponent.isSign c = true ∧ exponent.sign = [c]
  /-- There are digits. -/
  some : exponent.digits ≠ []
  /-- The digits are digits. -/
  digits : ∀ c ∈ exponent.digits, isDigit c = true

namespace Numeral

/-- A number as the rules have it. -/
structure Proper (numeral : Numeral) : Prop where
  /-- It begins with a digit. -/
  some : numeral.whole ≠ []
  /-- Digits stand before the point. -/
  whole : ∀ c ∈ numeral.whole, isDigit c = true
  /-- Digits stand behind the point. -/
  fraction : ∀ digits ∈ numeral.fraction, ∀ c ∈ digits, isDigit c = true
  /-- The exponent is one. -/
  exponent : ∀ exponent ∈ numeral.exponent, exponent.Proper

/-- What follows a number prolongs none of its parts. -/
structure Ends (numeral : Numeral) (behind : List Char) : Prop where
  /-- No further digit follows. -/
  digit : Stops isDigit behind
  /-- No point follows digits alone. -/
  point : numeral.isFloat = false → Stops (· = '.') behind
  /-- No exponent follows where there is none yet. -/
  letter : numeral.exponent = none → Stops Exponent.isLetter behind

end Numeral

namespace Exponent

/-- No digit is a sign. -/
theorem isSign_eq_false_of_isDigit {c : Char} (digit : isDigit c = true) : isSign c = false := by
  rw [← Bool.not_eq_true]
  intro sign
  simp only [isSign, Bool.or_eq_true, decide_eq_true_eq] at sign
  rcases sign with rfl | rfl <;> exact absurd digit (by decide)

/-- An exponent as the rules have it is read, with all its digits. -/
theorem of?_append {exponent : Exponent} {behind : List Char} (proper : exponent.Proper)
    (ends : Stops isDigit behind) :
    of? (exponent.letter :: (exponent.tail ++ behind)) = some exponent := by
  obtain ⟨letter, sign, digits⟩ := exponent
  obtain ⟨isLetter, signs, some, inside⟩ := proper
  simp only at isLetter signs some inside
  have run : (digits ++ behind).takeWhile isDigit = digits := ends.takeWhile_append inside
  simp only [of?, isLetter, tail, ↓reduceIte]
  rcases signs with rfl | ⟨c, isSign, rfl⟩
  · -- The first digit shows that no sign was meant.
    have unsigned : Stops Exponent.isSign (digits ++ behind) := by
      cases digits with
      | nil => contradiction
      | cons digit more =>
        exact Stops.cons_iff.mpr (isSign_eq_false_of_isDigit (inside digit List.mem_cons_self))
    rw [List.nil_append, unsigned.filter_take_one]
    simp [run]
  · simp [isSign, run]

/-- Where an exponent is read it stands there, and only its digits may be missing. -/
theorem proper_of_of? {input : List Char} {exponent : Exponent}
    (found : of? input = some exponent) :
    ∃ behind, input = exponent.letter :: (exponent.tail ++ behind) ∧ Stops isDigit behind ∧
      (exponent.digits ≠ [] → exponent.Proper) := by
  cases input with
  | nil => cases found
  | cons letter rest =>
    cases isLetter : Exponent.isLetter letter with
    | false => simp [of?, isLetter] at found
    | true =>
      simp only [of?, isLetter, ↓reduceIte, Option.some.injEq] at found
      subst found
      have signed := eq_append_drop (filter_take_one_begins isSign rest)
      have signs := filter_take_one_cases isSign rest
      generalize (rest.take 1).filter isSign = sign at signed signs
      generalize rest.drop sign.length = behind at signed
      subst signed
      refine ⟨behind.drop (behind.takeWhile isDigit).length, ?_, Stops.drop_takeWhile _ _, ?_⟩
      · rw [tail, List.append_assoc, ← eq_append_drop (List.takeWhile_prefix isDigit)]
      · intro some
        refine ⟨isLetter, ?_, some, fun _ member => inside_of_mem_takeWhile member⟩
        rcases signs with ⟨unsigned, -⟩ | ⟨c, -, -, isSign, signed⟩
        · exact .inl unsigned
        · exact .inr ⟨c, isSign, signed⟩

/-- No exponent is read where no exponent letter stands. -/
theorem of?_eq_none {input : List Char} : of? input = none ↔ Stops isLetter input := by
  cases input with
  | nil => simp [of?, Stops.nil]
  | cons letter rest =>
    rw [Stops.cons_iff]
    cases letters : isLetter letter <;> simp [of?, letters]

end Exponent

namespace Numeral

/-- No fraction is read where no point stands. -/
theorem fractionOf?_eq_none {input : List Char} :
    fractionOf? input = none ↔ Stops (· = '.') input := by
  unfold fractionOf?
  split
  · simp [Stops.cons_iff]
  · rename_i other
    cases input with
    | nil => simp [Stops.nil]
    | cons c rest =>
      have different : c ≠ '.' := by
        rintro rfl
        exact other rest rfl
      simp [Stops.cons_iff, different]

/-- A fraction is read with all its digits, and none where none is written. -/
theorem fractionOf?_append {fraction : Option (List Char)} {behind : List Char}
    (inside : ∀ digits ∈ fraction, ∀ c ∈ digits, isDigit c = true)
    (ends : Stops isDigit behind) (point : fraction = none → Stops (· = '.') behind) :
    fractionOf? (fractionText fraction ++ behind) = fraction := by
  cases fraction with
  | none => exact fractionOf?_eq_none.mpr (point rfl)
  | some digits => exact congrArg some (ends.takeWhile_append (inside digits rfl))

/-- Where a fraction is read it stands there, with all its digits. -/
theorem fractionText_fractionOf? {input : List Char} (start : Stops isDigit input) :
    ∃ behind, input = fractionText (fractionOf? input) ++ behind ∧ Stops isDigit behind ∧
      (∀ digits ∈ fractionOf? input, ∀ c ∈ digits, isDigit c = true) ∧
      (fractionOf? input = none → Stops (· = '.') behind) := by
  cases found : fractionOf? input with
  | none => exact ⟨input, rfl, start, by simp, fun _ => fractionOf?_eq_none.mp found⟩
  | some digits =>
    unfold fractionOf? at found
    split at found
    · rename_i rest
      cases found
      refine ⟨rest.drop (rest.takeWhile isDigit).length, ?_, Stops.drop_takeWhile _ _, ?_, by simp⟩
      · exact congrArg ('.' :: ·) (eq_append_drop (List.takeWhile_prefix isDigit))
      · intro digits same c member
        cases same
        exact inside_of_mem_takeWhile member
    · cases found

/-- A point or an exponent letter ends a run of digits. -/
theorem stops_fractionText (fraction : Option (List Char)) {rest : List Char}
    (ends : Stops isDigit rest) : Stops isDigit (fractionText fraction ++ rest) := by
  cases fraction with
  | none => exact ends
  | some digits => exact Stops.cons_iff.mpr (by decide)

/-- Digits, a fraction and what follows are told apart. -/
theorem of_append {whole rest : List Char} {fraction : Option (List Char)}
    (inside : ∀ c ∈ whole, isDigit c = true) (ends : Stops isDigit rest)
    (read : fractionOf? (fractionText fraction ++ rest) = fraction) :
    of (whole ++ (fractionText fraction ++ rest)) = ⟨whole, fraction, Exponent.of? rest⟩ := by
  have run := (stops_fractionText fraction ends).takeWhile_append inside
  simp only [of, run, List.drop_left, read]

/-- An exponent letter is neither a digit nor a point. -/
theorem stops_letter {letter : Char} (isLetter : Exponent.isLetter letter = true)
    (rest : List Char) :
    Stops isDigit (letter :: rest) ∧ Stops (· = '.') (letter :: rest) := by
  simp only [Exponent.isLetter, Bool.or_eq_true, decide_eq_true_eq] at isLetter
  rcases isLetter with rfl | rfl <;> exact ⟨Stops.cons_iff.mpr rfl, Stops.cons_iff.mpr rfl⟩

/-- A number as the rules have it is read, with all its parts. -/
theorem of_text_append {numeral : Numeral} {behind : List Char} (proper : numeral.Proper)
    (ends : numeral.Ends behind) : of (numeral.text ++ behind) = numeral := by
  obtain ⟨whole, fraction, exponent⟩ := numeral
  simp only [text, List.append_assoc]
  cases exponent with
  | none =>
    have point : fraction = none → Stops (· = '.') behind := by
      rintro rfl
      exact ends.point rfl
    rw [List.nil_append, of_append proper.whole ends.digit
      (fractionOf?_append proper.fraction ends.digit point)]
    rw [Exponent.of?_eq_none.mpr (ends.letter rfl)]
  | some exponent =>
    have isExponent := proper.exponent exponent rfl
    obtain ⟨digit, point⟩ := stops_letter isExponent.letter (exponent.tail ++ behind)
    rw [List.cons_append, of_append proper.whole digit
      (fractionOf?_append proper.fraction digit fun _ => point)]
    rw [Exponent.of?_append isExponent ends.digit]

/-- A number is known by its characters. -/
theorem of_text {numeral : Numeral} (proper : numeral.Proper) : of numeral.text = numeral := by
  have alone : numeral.Ends [] := ⟨Stops.nil _, fun _ => Stops.nil _, fun _ => Stops.nil _⟩
  have read := of_text_append proper alone
  rw [List.append_nil] at read
  exact read

/-- The number that is read stands there and takes all it can. It is as the rules have it, but
for the digits of its exponent. -/
theorem proper_of (input : List Char) :
    ∃ behind, input = (of input).text ++ behind ∧ (of input).Ends behind ∧
      ((of input).whole ≠ [] → (of input).lacksDigits = false → (of input).Proper) := by
  have split := eq_append_drop (List.takeWhile_prefix isDigit (l := input))
  have start := Stops.drop_takeWhile isDigit input
  have inside : ∀ c ∈ input.takeWhile isDigit, isDigit c = true :=
    fun _ member => inside_of_mem_takeWhile member
  generalize input.takeWhile isDigit = whole at *
  generalize input.drop whole.length = behindWhole at *
  obtain ⟨rest, same, ends, digits, point⟩ := fractionText_fractionOf? start
  have read := congrArg fractionOf? same
  generalize fractionOf? behindWhole = fraction at *
  subst same
  rw [split, of_append inside ends read.symm]
  cases found : Exponent.of? rest with
  | none =>
    refine ⟨rest, by simp [text], ⟨ends, ?_, fun _ => Exponent.of?_eq_none.mp found⟩, ?_⟩
    · intro plain
      apply point
      simpa [isFloat] using plain
    · intro some _
      exact ⟨some, inside, digits, by simp⟩
  | some exponent =>
    obtain ⟨behind, rfl, ends, proper⟩ := Exponent.proper_of_of? found
    refine ⟨behind, by simp [text], ⟨ends, by simp [isFloat], by simp⟩, ?_⟩
    intro some lacks
    refine ⟨some, inside, digits, ?_⟩
    rintro other same
    cases same
    apply proper
    simpa [lacksDigits] using lacks

end Numeral

/-! ## What a number denotes -/

/-- The number that digits write in the decimal system: the last one counts ones, the one before
it tens, and so on. -/
def decimalValue (digits : List Char) : Nat :=
  Nat.ofDigits 10 (digits.reverse.map fun digit => digit.toNat - '0'.toNat)

/-- A digit in front counts as much as there are numbers with the digits behind it. -/
theorem decimalValue_cons (digit : Char) (digits : List Char) :
    decimalValue (digit :: digits) =
      decimalValue digits + 10 ^ digits.length * (digit.toNat - '0'.toNat) := by
  rw [decimalValue, List.reverse_cons, List.map_append, Nat.ofDigits_append, List.length_map,
    List.length_reverse, List.map_singleton, Nat.ofDigits_singleton, decimalValue]

/-- Digits denote what they write in the decimal system. -/
theorem digitsValue_eq_decimalValue (digits : List Char) :
    digitsValue digits = decimalValue digits := by
  -- The value read so far is shifted by one place for each digit that is left.
  have fold (value : Nat) : digits.foldl (fun value digit => 10 * value +
      (digit.toNat - '0'.toNat)) value = decimalValue digits + 10 ^ digits.length * value := by
    induction digits generalizing value with
    | nil => simp [decimalValue]
    | cons digit digits ih =>
      rw [List.foldl_cons, ih, decimalValue_cons, List.length_cons, Nat.pow_succ, Nat.mul_add,
        Nat.mul_assoc]
      omega
  rw [digitsValue, fold, Nat.mul_zero, Nat.add_zero]

/-- Digits in front count as many places higher as there are digits behind them. -/
theorem decimalValue_append (front behind : List Char) :
    decimalValue (front ++ behind) =
      decimalValue behind + 10 ^ behind.length * decimalValue front := by
  rw [decimalValue, List.reverse_append, List.map_append, Nat.ofDigits_append, List.length_map,
    List.length_reverse, decimalValue, decimalValue]

/-- The power of ten that an exponent stands for. -/
def Exponent.power (exponent : Exponent) : Int :=
  if exponent.sign = ['-'] then -(decimalValue exponent.digits : Int)
  else decimalValue exponent.digits

namespace Numeral

/-- The number that a number in decimal digits denotes. -/
def value (numeral : Numeral) : ℚ :=
  let fraction := numeral.fraction.getD []
  let power := (numeral.exponent.map Exponent.power).getD 0
  (decimalValue numeral.whole + decimalValue fraction / 10 ^ fraction.length) * 10 ^ power

/-- A number is taken to the floating-point number nearest to what it denotes. -/
theorem toBinary64_nearest (numeral : Numeral) : numeral.toBinary64.Nearest numeral.value := by
  have powers : numeral.exponent.map Exponent.value = numeral.exponent.map Exponent.power := by
    congr 1
    funext exponent
    simp only [Exponent.value, Exponent.power, digitsValue_eq_decimalValue]
  have value : numeral.value =
      digitsValue (numeral.whole ++ numeral.fraction.getD []) *
        10 ^ ((numeral.exponent.map Exponent.value).getD 0 -
          (numeral.fraction.getD []).length) := by
    have ten : (10 : ℚ) ≠ 0 := by norm_num
    rw [Numeral.value, powers, digitsValue_eq_decimalValue, decimalValue_append, zpow_sub₀ ten,
      zpow_natCast]
    push_cast
    field_simp
    ring
  rw [value]
  exact Binary64.ofDecimal_nearest _ _

/-- The number with a small exponent letter. -/
def lower (numeral : Numeral) : Numeral :=
  { numeral with exponent := numeral.exponent.map fun exponent => { exponent with letter := 'e' } }

/-- Messages show a number with a small exponent letter. -/
theorem text_lower (numeral : Numeral) : numeral.lower.text = numeral.shown := by
  unfold text shown lower
  cases numeral.exponent <;> rfl

/-- The exponent letter is of no account. -/
theorem toBinary64_lower (numeral : Numeral) : numeral.lower.toBinary64 = numeral.toBinary64 := by
  unfold toBinary64 lower
  cases numeral.exponent <;> rfl

/-- With a small exponent letter a number is still one. -/
theorem Proper.lower {numeral : Numeral} (proper : numeral.Proper) : numeral.lower.Proper := by
  refine ⟨proper.some, proper.whole, proper.fraction, fun exponent member => ?_⟩
  obtain ⟨original, found, rfl⟩ := Option.map_eq_some_iff.mp member
  have isExponent := proper.exponent original found
  exact ⟨rfl, isExponent.sign, isExponent.some, isExponent.digits⟩

/-- The exponent of a number has digits. -/
theorem Proper.lacksDigits {numeral : Numeral} (proper : numeral.Proper) :
    numeral.lacksDigits = false := by
  unfold Numeral.lacksDigits
  split
  · rename_i exponent found
    simpa using (proper.exponent exponent found).some
  · rfl

/-- The text of a number is one. -/
theorem ofText?_text {numeral : Numeral} (proper : numeral.Proper) :
    ofText? numeral.text = some numeral := by
  rw [ofText?, of_text proper, if_pos]
  exact ⟨rfl, by simp [proper.some], proper.lacksDigits⟩

/-- A number begins with a digit. -/
theorem Proper.exists_digit {numeral : Numeral} (proper : numeral.Proper) :
    ∃ digit more, isDigit digit = true ∧ numeral.text = digit :: more := by
  obtain ⟨digit, more, whole⟩ := List.exists_cons_of_ne_nil proper.some
  have first : isDigit digit = true := proper.whole digit (whole ▸ List.mem_cons_self)
  rw [text, whole]
  exact ⟨digit, _, first, rfl⟩

end Numeral

namespace Decimal.Binary64

/-- No sign begins a text that begins with a digit, and no word. -/
theorem ofText?_cons {digit : Char} (isDigit : isDigit digit = true) (more : List Char) :
    ofText? (digit :: more) = (Numeral.ofText? (digit :: more)).map Numeral.toBinary64 := by
  simp only [Cpplet.isDigit, Bool.and_eq_true, decide_eq_true_eq] at isDigit
  have small : digit.toNat ≤ 57 := isDigit.2
  have lower : digit.toLower = digit := by
    refine dif_neg ?_
    rintro ⟨capital, -⟩
    have capital : 65 ≤ digit.toNat := capital
    omega
  have other {c : Char} (large : 57 < c.toNat) : digit ≠ c := by
    rintro rfl
    omega
  have unsigned : ofText? (digit :: more) = ofUnsignedText? (digit :: more) := by
    unfold ofText?
    split
    · rename_i same
      exact absurd ((List.cons.inj same).1 ▸ isDigit.1) (by decide : ¬ '0' ≤ '-')
    · rename_i same
      exact absurd ((List.cons.inj same).1 ▸ isDigit.1) (by decide : ¬ '0' ≤ '+')
    · rfl
  rw [unsigned, ofUnsignedText?, List.map_cons, lower]
  split
  · rename_i same
    exact absurd (List.cons.inj same).1 (other (by decide))
  · rename_i same
    exact absurd (List.cons.inj same).1 (other (by decide))
  · rename_i same
    exact absurd (List.cons.inj same).1 (other (by decide))
  · rfl

end Decimal.Binary64

/-- The conversion of the characters of a number does not fail. -/
theorem Numeral.ofText?_shown {numeral : Numeral} (proper : numeral.Proper) :
    Binary64.ofText? numeral.shown = some numeral.toBinary64 := by
  obtain ⟨digit, more, isDigit, text⟩ := proper.lower.exists_digit
  rw [← text_lower, text, Binary64.ofText?_cons isDigit, ← text, ofText?_text proper.lower,
    Option.map_some, toBinary64_lower]

end Cpplet

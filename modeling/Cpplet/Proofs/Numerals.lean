import Cpplet.Proofs.Printing

/-!
# Numbers are read whole

A number that stands at a cursor is read to its end: no longer text from there on is a number. It
is an integer constant of its decimal value if it is made of digits alone and fits a signed word
of 64 bits, and an error at its first digit if it does not fit; with a point or an exponent it is
a floating-point constant, and takes one letter `f` behind it. The only other error is an exponent
letter without a digit behind it, directly behind the digits or the fraction
(`number_takes_longest`).
-/

namespace Cpplet

open Decimal (Binary64)

/-- Where a class does not begin a text, it begins none of its beginnings. -/
theorem Stops.of_begins {test : Char → Bool} {behind more : List Char} (stops : Stops test behind)
    (begins : more <+: behind) : Stops test more := by
  cases more with
  | nil => exact Stops.nil test
  | cons c more =>
    obtain ⟨others, rfl⟩ := begins
    exact Stops.cons_iff.mpr (Stops.cons_iff.mp stops)

/-! ## The longest number -/

namespace Numeral

/-- A number that begins a text, and no longer one does. -/
structure Longest (numeral : Numeral) (input : List Char) : Prop where
  /-- It is a number. -/
  proper : numeral.Proper
  /-- It begins the text. -/
  begins : numeral.text <+: input
  /-- No other number that begins the text is longer. -/
  longest : ∀ other : Numeral, other.Proper → other.text <+: input →
    other.text.length ≤ numeral.text.length

/-- What follows a number prolongs none of its parts up to any point. -/
theorem Ends.of_begins {numeral : Numeral} {behind more : List Char} (ends : numeral.Ends behind)
    (begins : more <+: behind) : numeral.Ends more where
  digit := ends.digit.of_begins begins
  point plain := (ends.point plain).of_begins begins
  letter none := (ends.letter none).of_begins begins

/-- A number none of whose parts is prolonged is the longest one. -/
theorem longest_of_ends {numeral : Numeral} {behind : List Char} (proper : numeral.Proper)
    (ends : numeral.Ends behind) : numeral.Longest (numeral.text ++ behind) := by
  refine ⟨proper, List.prefix_append _ _, ?_⟩
  intro other properToo begins
  apply Nat.le_of_not_lt
  intro longer
  have within : numeral.text <+: other.text :=
    List.prefix_of_prefix_length_le (List.prefix_append _ _) begins (Nat.le_of_lt longer)
  obtain ⟨more, split⟩ := within
  have inside : more <+: behind := by
    rw [← split, List.prefix_append_right_inj] at begins
    exact begins
  -- The longer text is divided into the parts of either number, so they are one.
  have same : other = numeral := by
    calc
      other = of other.text := (of_text properToo).symm
      _ = of (numeral.text ++ more) := by rw [split]
      _ = numeral := of_text_append proper (ends.of_begins inside)
  rw [same] at longer
  exact Nat.lt_irrefl _ longer

end Numeral

/-! ## Exponents without digits -/

namespace Exponent

/-- Whether a text begins as an exponent goes on behind its letter: with a digit, before which one
sign may stand. -/
def GoesOn (behind : List Char) : Prop :=
  ∃ sign digit more, (sign = [] ∨ ∃ c, isSign c = true ∧ sign = [c]) ∧ isDigit digit = true ∧
    behind = sign ++ digit :: more

/-- Where an exponent is read, the first character is its letter. -/
theorem isLetter_of_of? {letter : Char} {behind : List Char} {exponent : Exponent}
    (found : of? (letter :: behind) = some exponent) : isLetter letter = true := by
  rw [← Bool.not_eq_false]
  intro outside
  rw [of?_eq_none.mpr (Stops.cons_iff.mpr outside)] at found
  cases found

/-- An exponent is read with digits exactly where a text goes on as one behind the letter. -/
theorem digits_ne_nil_iff {letter : Char} {behind : List Char} {exponent : Exponent}
    (found : of? (letter :: behind) = some exponent) :
    exponent.digits ≠ [] ↔ GoesOn behind := by
  obtain ⟨last, split, ends, proper⟩ := proper_of_of? found
  constructor
  · intro some
    have proper := proper some
    obtain ⟨digit, others, digits⟩ := List.exists_cons_of_ne_nil some
    refine ⟨exponent.sign, digit, others ++ last, proper.sign, ?_, ?_⟩
    · apply proper.digits
      rw [digits]
      exact List.mem_cons_self
    · have tail := (List.cons.inj split).2
      rw [tail, Exponent.tail, digits, List.append_assoc, List.cons_append]
  · rintro ⟨sign, digit, more, signs, isDigit, rfl⟩ nothing
    have isLetter : Exponent.isLetter letter = true := isLetter_of_of? found
    -- The exponent with all the digits that stand there is the one that is read.
    have whole : Proper ⟨letter, sign, (digit :: more).takeWhile Cpplet.isDigit⟩ := by
      refine ⟨isLetter, signs, ?_, fun _ member => inside_of_mem_takeWhile member⟩
      rw [List.takeWhile_cons_of_pos isDigit]
      exact List.cons_ne_nil _ _
    have read := of?_append whole (Stops.drop_takeWhile Cpplet.isDigit (digit :: more))
    rw [tail, List.append_assoc, ← eq_append_drop (List.takeWhile_prefix _), found] at read
    rw [← Option.some.inj read] at whole
    exact whole.some nothing

end Exponent

/-- Whether a text begins with digits, with or without a fraction, and directly behind them an
exponent letter that neither a digit nor a sign and a digit follow. -/
def DanglingExponent (input : List Char) : Prop :=
  ∃ (numeral : Numeral) (letter : Char) (behind : List Char),
    numeral.Proper ∧ numeral.exponent = none ∧ Exponent.isLetter letter = true ∧
      input = numeral.text ++ letter :: behind ∧ ¬ Exponent.GoesOn behind

namespace Numeral

/-- Behind the digits and the fraction of a number the exponent is read. -/
theorem exists_front {input : List Char} (some : (of input).whole ≠ []) :
    ∃ (front : Numeral) (rest : List Char), front.Proper ∧ front.exponent = none ∧
      input = front.text ++ rest ∧
      of input = ⟨front.whole, front.fraction, Exponent.of? rest⟩ := by
  have split := eq_append_drop (List.takeWhile_prefix isDigit (l := input))
  have inside : ∀ c ∈ input.takeWhile isDigit, isDigit c = true :=
    fun _ member => inside_of_mem_takeWhile member
  have start := Stops.drop_takeWhile isDigit input
  replace some : input.takeWhile isDigit ≠ [] := some
  generalize input.takeWhile isDigit = whole at *
  generalize input.drop whole.length = behind at *
  obtain ⟨rest, same, ends, digits, -⟩ := fractionText_fractionOf? start
  have read := congrArg fractionOf? same
  generalize fractionOf? behind = fraction at *
  subst same
  have proper : Proper ⟨whole, fraction, none⟩ := ⟨some, inside, digits, by simp⟩
  rw [split]
  exact ⟨_, rest, proper, rfl, by simp [text], of_append inside ends read.symm⟩

/-- Behind a number without an exponent an exponent letter begins one. -/
theorem of_letter {numeral : Numeral} (proper : numeral.Proper) (bare : numeral.exponent = none)
    {letter : Char} (isLetter : Exponent.isLetter letter = true) (behind : List Char) :
    of (numeral.text ++ letter :: behind) =
      ⟨numeral.whole, numeral.fraction, Exponent.of? (letter :: behind)⟩ := by
  obtain ⟨digit, point⟩ := stops_letter isLetter behind
  have fraction := fractionOf?_append proper.fraction digit fun _ => point
  rw [text, bare, List.append_nil, List.append_assoc, of_append proper.whole digit fraction]

/-- The digits of an exponent are missing exactly where an exponent letter dangles. -/
theorem lacksDigits_iff {input : List Char} (some : (of input).whole ≠ []) :
    (of input).lacksDigits = true ↔ DanglingExponent input := by
  constructor
  · intro lacks
    obtain ⟨front, rest, proper, bare, split, parts⟩ := exists_front some
    cases found : Exponent.of? rest with
    | none =>
      rw [parts, found] at lacks
      cases lacks
    | some exponent =>
      have nothing : exponent.digits = [] := by
        simpa [parts, found, lacksDigits] using lacks
      cases rest with
      | nil => cases found
      | cons letter behind =>
        have stuck : ¬ Exponent.GoesOn behind := by
          rw [← Exponent.digits_ne_nil_iff found]
          exact not_not_intro nothing
        exact ⟨front, letter, behind, proper, bare, Exponent.isLetter_of_of? found, split, stuck⟩
  · rintro ⟨numeral, letter, behind, proper, bare, isLetter, rfl, stuck⟩
    have parts := of_letter proper bare isLetter behind
    cases found : Exponent.of? (letter :: behind) with
    | none =>
      have outside := Stops.cons_iff.mp (Exponent.of?_eq_none.mp found)
      rw [isLetter] at outside
      cases outside
    | some exponent =>
      rw [← Exponent.digits_ne_nil_iff found, not_not] at stuck
      simp [parts, found, lacksDigits, stuck]

end Numeral

/-! ## Reading numbers -/

/-- Whether the wording of a flaw begins with some words. -/
def Flaw.Says (flaw : Flaw) (words : String) : Prop := words.toList <+: flaw.message.toList

/-- A wording begins with the words that its first text begins with. -/
theorem Flaw.says_of_message {flaw : Flaw} {words text behind : String}
    (message : flaw.message = text ++ behind) (begins : words.toList <+: text.toList) :
    flaw.Says words := by
  rw [Says, message, String.toList_append]
  exact begins.trans (List.prefix_append _ _)

/-- Of two wordings that a flaw has, one begins with the other. -/
theorem Flaw.Says.comparable {flaw : Flaw} {words other : String} (first : flaw.Says words)
    (second : flaw.Says other) : words.toList <+: other.toList ∨ other.toList <+: words.toList :=
  List.prefix_or_prefix_of_prefix first second

/-- What reading a number comes to at a place, by its parts and by what stands behind it. -/
inductive Numeral.Read (numeral : Numeral) (place : Location) (behind : List Char) :
    Cursor.Reading → Prop where
  /-- Digits alone that fit a signed word are an integer constant. -/
  | integer (plain : numeral.isFloat = false) (fits : decimalValue numeral.whole ≤ 2 ^ 63 - 1) :
      Read numeral place behind
        (.ok ⟨.integer, some (.integer (decimalValue numeral.whole)), place⟩,
          ⟨behind, place.past numeral.text⟩)
  /-- Digits alone that do not fit are an error at the first of them. -/
  | tooLarge {error : LexicalError} (plain : numeral.isFloat = false)
      (above : 2 ^ 63 - 1 < decimalValue numeral.whole) (blamed : error.location = place)
      (worded : error.flaw.Says "Invalid integer literal") :
      Read numeral place behind (.error error, ⟨behind, place.past numeral.text⟩)
  /-- With a point or an exponent a number is a floating-point constant, the nearest one. -/
  | float {value : Binary64} (isFloat : numeral.isFloat = true)
      (bare : Stops Lexeme.isFloatSuffix behind) (nearest : value.Nearest numeral.value) :
      Read numeral place behind
        (.ok ⟨.float, some (.float value), place⟩, ⟨behind, place.past numeral.text⟩)
  /-- One letter behind a floating-point constant is taken, and changes nothing. -/
  | suffixed {value : Binary64} {letter : Char} {more : List Char}
      (isFloat : numeral.isFloat = true) (suffix : Lexeme.isFloatSuffix letter = true)
      (next : behind = letter :: more) (nearest : value.Nearest numeral.value) :
      Read numeral place behind
        (.ok ⟨.float, some (.float value), place⟩,
          ⟨more, place.past (numeral.text ++ [letter])⟩)

namespace Cursor

/-- At a digit nothing is skipped, and a number is read. -/
theorem next_of_digit {c : Char} (digit : isDigit c = true) (rest : List Char)
    (place : Location) :
    next ⟨c :: rest, place⟩ =
      match Lexeme.number (c :: rest) with
      | .ok lexeme =>
        (.ok ⟨lexeme.kind, lexeme.value, place⟩, past ⟨c :: rest, place⟩ lexeme.text)
      | .error misfit => misread ⟨c :: rest, place⟩ misfit := by
  have different : c ≠ '/' := by
    rintro rfl
    exact absurd digit (by decide)
  rw [next_eq_token (isBlank_eq_false_of_isDigit digit) different, token]
  cases outcome : Lexeme.number (c :: rest) with
  | ok lexeme => simp [Lexeme.front_eq_number digit, outcome]
  | error misfit => simp [Lexeme.front_eq_number digit, outcome]

end Cursor

/-- A number whose exponent has digits, if it has one, is read to its end. -/
theorem Numeral.read_of_number {c : Char} {rest : List Char} (digit : isDigit c = true)
    (whole : (of (c :: rest)).lacksDigits = false) (place : Location) :
    ∃ numeral behind, c :: rest = text numeral ++ behind ∧ numeral.Longest (c :: rest) ∧
      numeral.Read place behind (Cursor.next ⟨c :: rest, place⟩) := by
  have some : (of (c :: rest)).whole ≠ [] := by simp [of, digit]
  obtain ⟨behind, split, ends, proper⟩ := proper_of (c :: rest)
  have proper := proper some whole
  have longest := longest_of_ends proper ends
  rw [← split] at longest
  refine ⟨_, behind, split, longest, ?_⟩
  rw [Cursor.next_of_digit digit, Lexeme.number]
  generalize of (c :: rest) = numeral at *
  simp only [split, whole, List.drop_left]
  by_cases isFloat : numeral.isFloat = true
  · simp only [isFloat, Bool.false_eq_true, ↓reduceIte, ofText?_shown proper]
    have nearest := numeral.toBinary64_nearest
    rcases filter_take_one_cases Lexeme.isFloatSuffix behind with
      ⟨nothing, bare⟩ | ⟨letter, more, rfl, suffix, taken⟩
    · have read : numeral.Read place behind _ := .float isFloat bare nearest
      rw [nothing]
      simpa [Cursor.past] using read
    · have read : numeral.Read place (letter :: more) _ :=
        .suffixed isFloat suffix rfl nearest
      rw [taken]
      simpa [Cursor.past] using read
  · rw [Bool.not_eq_true] at isFloat
    have value := digitsValue_eq_decimalValue numeral.whole
    by_cases fits : digitsValue numeral.whole ≤ largestInteger
    · simp only [isFloat, fits, Bool.false_eq_true, ↓reduceIte]
      rw [value] at fits ⊢
      have read : numeral.Read place behind _ := .integer isFloat fits
      simpa [Cursor.past] using read
    · simp only [isFloat, fits, Bool.false_eq_true, ↓reduceIte]
      rw [value] at fits
      have worded : (Flaw.integerTooLarge numeral.whole).Says "Invalid integer literal" :=
        Flaw.says_of_message rfl (by decide)
      have read := @Read.tooLarge numeral place behind ⟨.integerTooLarge numeral.whole, place⟩
        isFloat (Nat.lt_of_not_le fits) rfl worded
      simpa [Cursor.misread, Cursor.past] using read

/-- A number whose exponent lacks digits is an error at its first digit. -/
theorem Numeral.next_of_lacksDigits {c : Char} {rest : List Char} (digit : isDigit c = true)
    (lacks : (of (c :: rest)).lacksDigits = true) (place : Location) :
    (Cursor.next ⟨c :: rest, place⟩).1 =
      .error ⟨.exponentWithoutDigits (of (c :: rest)).shown, place⟩ := by
  rw [Cursor.next_of_digit digit, Lexeme.number]
  simp only [lacks, ↓reduceIte]
  rfl

/-- Numbers are read whole. At a digit, reading fails for want of digits in an exponent exactly
where an exponent letter dangles behind the digits or the fraction; otherwise the longest number
that stands there is read. The characters that are handed to the conversion to a floating-point
number are never refused. -/
theorem number_takes_longest {c : Char} (digit : isDigit c = true) (rest : List Char)
    (place : Location) :
    (DanglingExponent (c :: rest) ↔
      ∃ error stop, Cursor.next ⟨c :: rest, place⟩ = (.error error, stop) ∧
        error.flaw.Says "Exponent has no digits") ∧
    (¬ DanglingExponent (c :: rest) →
      ∃ numeral behind, c :: rest = Numeral.text numeral ++ behind ∧
        numeral.Longest (c :: rest) ∧
        numeral.Read place behind (Cursor.next ⟨c :: rest, place⟩)) ∧
    ∀ error stop, Cursor.next ⟨c :: rest, place⟩ = (.error error, stop) →
      ¬ error.flaw.Says "Invalid float literal" := by
  have some : (Numeral.of (c :: rest)).whole ≠ [] := by simp [Numeral.of, digit]
  rw [← Numeral.lacksDigits_iff some, Bool.not_eq_true]
  refine ⟨⟨?_, ?_⟩, fun whole => Numeral.read_of_number digit whole place, ?_⟩
  · intro lacks
    have failed := Numeral.next_of_lacksDigits digit lacks place
    exact ⟨_, _, Prod.ext failed rfl,
      Flaw.says_of_message String.append_assoc (by decide)⟩
  · rintro ⟨error, stop, failed, worded⟩
    rw [← Bool.not_eq_false]
    intro whole
    obtain ⟨numeral, behind, -, -, read⟩ := Numeral.read_of_number digit whole place
    rw [failed] at read
    cases read with
    | tooLarge plain above blamed other =>
      -- The two wordings differ in their first letter.
      exact absurd (worded.comparable other) (by decide)
  · intro error stop failed worded
    cases whole : (Numeral.of (c :: rest)).lacksDigits with
    | false =>
      obtain ⟨numeral, behind, -, -, read⟩ := Numeral.read_of_number digit whole place
      rw [failed] at read
      cases read with
      | tooLarge plain above blamed other =>
        exact absurd (worded.comparable other) (by decide)
    | true =>
      have read := Numeral.next_of_lacksDigits digit whole place
      rw [failed] at read
      have other : error.flaw.Says "Exponent has no digits" := by
        rw [Except.error.inj read]
        exact Flaw.says_of_message String.append_assoc (by decide)
      exact absurd (worded.comparable other) (by decide)

/-- In `1.e+f` the exponent letter dangles, since the sign has no digit behind it. The number
`07.e4` of `07.e4ff` has an empty fraction, and takes one of the two letters behind it. -/
theorem number_takes_longest_sign :
    isDigit '1' = true ∧ DanglingExponent ['1', '.', 'e', '+', 'f'] ∧
      (∃ error stop, Cursor.next ⟨['1', '.', 'e', '+', 'f'], .start⟩ = (.error error, stop) ∧
        error.flaw.Says "Exponent has no digits" ∧
        ¬ error.flaw.Says "Invalid float literal") ∧
      isDigit '0' = true ∧ ¬ DanglingExponent ['0', '7', '.', 'e', '4', 'f', 'f'] ∧
      ∃ numeral behind, ['0', '7', '.', 'e', '4', 'f', 'f'] = Numeral.text numeral ++ behind ∧
        numeral.Longest ['0', '7', '.', 'e', '4', 'f', 'f'] ∧
        numeral.Read .start behind
          (.ok ⟨.float, some (.float ⟨0x40F1170000000000⟩), .start⟩, ⟨['f'], ⟨1, 7⟩⟩) := by
  have dangling : DanglingExponent ['1', '.', 'e', '+', 'f'] :=
    (Numeral.lacksDigits_iff (by decide)).mp (by decide)
  have whole : ¬ DanglingExponent ['0', '7', '.', 'e', '4', 'f', 'f'] := by
    rw [← Numeral.lacksDigits_iff (by decide)]
    decide
  have read : Cursor.next ⟨['0', '7', '.', 'e', '4', 'f', 'f'], .start⟩ =
      (.ok ⟨.float, some (.float ⟨0x40F1170000000000⟩), .start⟩, ⟨['f'], ⟨1, 7⟩⟩) := by
    decide +kernel
  have longest := (number_takes_longest (by decide) _ .start).2.1 whole
  rw [read] at longest
  obtain ⟨fails, -, other⟩ :=
    number_takes_longest (by decide : isDigit '1' = true) ['.', 'e', '+', 'f'] .start
  obtain ⟨error, stop, failed, worded⟩ := fails.mp dangling
  exact ⟨by decide, dangling, ⟨error, stop, failed, worded, other error stop failed⟩, by decide,
    whole, longest⟩

end Cpplet

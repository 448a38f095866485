import Cpplet.Proofs.Amounts
import Cpplet.Proofs.Lexing

/-!
# The rules of lexemes

What a lexeme is, said without reading one. A word is a run of word characters that nothing
prolongs, a mark is the longest of those that begin the text, a number has its parts in order and
takes all it can, and a quotation spells its characters one by one. Only what stands behind a
lexeme decides where it ends, so each rule names it.

The laws: whatever is read off the front of a text follows these rules (`stands_of_front`), and
whatever follows them is read (`front_of_stands`).
-/

namespace Cpplet

open Decimal (Binary64)

/-! ## Words -/

/-- Every reserved word is listed. -/
theorem Keyword.mem_all (word : Keyword) : word ∈ Keyword.all := by
  cases word <;> decide

/-- A reserved word is found by its spelling. -/
theorem Keyword.ofSpelling?_spelling (word : Keyword) :
    Keyword.ofSpelling? word.spelling = some word := by
  cases word <;> decide

/-- The spelling of a found word is the one it was looked up by. -/
theorem Keyword.spelling_of_ofSpelling? {text : String} {word : Keyword}
    (found : Keyword.ofSpelling? text = some word) : word.spelling = text := by
  simpa using List.find?_some found

/-- Where no word is found, none is spelled so. -/
theorem Keyword.ofSpelling?_eq_none {text : String} :
    Keyword.ofSpelling? text = none ↔ ∀ word : Keyword, word.spelling ≠ text := by
  simp [ofSpelling?, mem_all]

/-- A text is a whole word: it begins like one, goes on like one, and nothing prolongs it. -/
structure WholeWord (text behind : List Char) : Prop where
  /-- The first character begins a word. -/
  begins : ∃ c ∈ text.head?, Lexeme.beginsWord c = true
  /-- A word goes on with every character. -/
  continues : ∀ c ∈ text, Lexeme.continuesWord c = true
  /-- No word goes on with what follows. -/
  ends : Stops Lexeme.continuesWord behind

/-- The longest run of word characters behind a beginning is a whole word. -/
theorem WholeWord.takeWhile {c : Char} {rest : List Char} (begins : Lexeme.beginsWord c = true) :
    WholeWord ((c :: rest).takeWhile Lexeme.continuesWord)
      ((c :: rest).drop ((c :: rest).takeWhile Lexeme.continuesWord).length) where
  begins := by
    rw [List.takeWhile_cons_of_pos (Lexeme.continuesWord_of_beginsWord begins)]
    exact ⟨c, rfl, begins⟩
  continues _ member := inside_of_mem_takeWhile member
  ends := Stops.drop_takeWhile _ _

/-! ## Marks -/

/-- Every mark is listed. -/
theorem Mark.mem_all (symbol : Mark) : symbol ∈ Mark.all := by
  cases symbol <;> decide

/-- No mark is listed before a longer one. -/
theorem Mark.pairwise_all :
    Mark.all.Pairwise fun first second =>
      second.spelling.toList.length ≤ first.spelling.toList.length := by
  decide

/-- A mark is known by its spelling. -/
theorem Mark.spelling_injective {first second : Mark}
    (same : first.spelling = second.spelling) : first = second := by
  have found (symbol : Mark) : Mark.all.find? (·.spelling = symbol.spelling) = some symbol := by
    cases symbol <;> decide
  exact Option.some.inj ((found first).symm.trans (same ▸ found second))

/-- No longer mark than this one stands at the front of a text. -/
def Mark.Longest (symbol : Mark) (text : List Char) : Prop :=
  ∀ other : Mark, other.spelling.toList <+: text →
    other.spelling.toList.length ≤ symbol.spelling.toList.length

/-- The mark that is found begins the text, and no longer one does. -/
theorem Mark.longest_of_front? {symbol : Mark} {text : List Char}
    (found : Mark.front? text = some symbol) :
    symbol.spelling.toList <+: text ∧ symbol.Longest text := by
  obtain ⟨begins, before, behind, listed, none⟩ := List.find?_eq_some_iff_append.mp found
  rw [List.isPrefixOf_iff_prefix] at begins
  refine ⟨begins, ?_⟩
  intro other matching
  have ordered := Mark.pairwise_all
  have member := Mark.mem_all other
  rw [listed] at ordered member
  rcases List.mem_append.mp member with earlier | later
  · have mismatch := none other earlier
    rw [List.isPrefixOf_iff_prefix.mpr matching] at mismatch
    cases mismatch
  · rcases List.mem_cons.mp later with rfl | later
    · exact Nat.le_refl _
    · have tail := (List.pairwise_append.mp ordered).2.1
      exact (List.pairwise_cons.mp tail).1 other later

/-- The longest mark at the front of a text is found. -/
theorem Mark.front?_of_longest {symbol : Mark} {text : List Char}
    (begins : symbol.spelling.toList <+: text) (longest : symbol.Longest text) :
    Mark.front? text = some symbol := by
  have some : (Mark.front? text).isSome = true := by
    rw [Mark.front?, List.find?_isSome]
    exact ⟨symbol, Mark.mem_all symbol, List.isPrefixOf_iff_prefix.mpr begins⟩
  obtain ⟨other, found⟩ := Option.isSome_iff_exists.mp some
  obtain ⟨beginsOther, longestOther⟩ := Mark.longest_of_front? found
  -- Both begin the same text and neither is longer, so they are spelled alike.
  have alike : other.spelling.toList = symbol.spelling.toList :=
    List.prefix_of_prefix_length_le beginsOther begins (longest other beginsOther)
      |>.eq_of_length_le (longestOther symbol begins)
  rw [found, Mark.spelling_injective (String.toList_inj.mp alike)]

/-! ## Quotations -/

/-- How one character is written inside quotes. -/
inductive Spells (quote : Char) : List Char → Char → Prop where
  /-- A character stands for itself, apart from the quote, the backslash and the line feed. -/
  | itself {c : Char} (unquoted : c ≠ quote) (plain : c ≠ '\\') (inline : c ≠ '\n') :
      Spells quote [c] c
  /-- A backslash and a letter stand for the character that the letter names. -/
  | escape {letter c : Char} (named : unescape? letter = some c) : Spells quote ['\\', letter] c

/-- How the characters of a text are written inside quotes. -/
inductive SpellsAll (quote : Char) : List Char → List Char → Prop where
  /-- The empty text. -/
  | nil : SpellsAll quote [] []
  /-- One character more, in front. -/
  | cons {written : List Char} {c : Char} {others denoted : List Char}
      (first : Spells quote written c) (rest : SpellsAll quote others denoted) :
      SpellsAll quote (written ++ others) (c :: denoted)

namespace Run

/-- A run is spelled by its text. -/
theorem spells_of (input : List Char) :
    SpellsAll '"' (of input).text (of input).denoted ∧ (of input).text <+: input := by
  fun_induction of input with
  | case1 letter rest c named ih =>
    exact ⟨.cons (.escape named) ih.1, (List.prefix_append_right_inj ['\\', letter]).mpr ih.2⟩
  | case2 letter rest unnamed => exact ⟨.nil, List.nil_prefix⟩
  | case3 c rest other special => exact ⟨.nil, List.nil_prefix⟩
  | case4 c rest other ordinary ih =>
    simp only [isSpecial, Bool.or_eq_true, decide_eq_true_eq, not_or] at ordinary
    obtain ⟨⟨unquoted, plain⟩, inline⟩ := ordinary
    exact ⟨.cons (.itself unquoted plain inline) ih.1, (List.prefix_append_right_inj [c]).mpr ih.2⟩
  | case5 => exact ⟨.nil, List.nil_prefix⟩

/-- Characters that are spelled up to a quote are a run. -/
theorem of_append {written denoted : List Char} (spells : SpellsAll '"' written denoted)
    (behind : List Char) : of (written ++ '"' :: behind) = ⟨written, denoted⟩ := by
  induction spells with
  | nil => rfl
  | @cons _ c _ _ first rest ih =>
    cases first with
    | itself unquoted plain inline =>
      have ordinary : isSpecial c = false := by simp [isSpecial, unquoted, plain, inline]
      rw [List.cons_append, List.nil_append, List.cons_append, of.eq_2]
      · simp [ordinary, ih, add]
      · intro letter more same
        exact absurd same plain
    | escape named => simp [of, named, ih, add]

end Run

/-! ## Lexemes -/

namespace Lexeme

/-- A lexeme as the rules have it, in front of what stands behind it. -/
inductive Stands (behind : List Char) : Lexeme → Prop where
  /-- A whole word that is reserved. -/
  | keyword {word : Keyword} (whole : WholeWord word.spelling.toList behind) :
      Stands behind ⟨word.spelling.toList, .keyword word, some (.spelling word.spelling)⟩
  /-- A whole word that is not reserved, as a name. -/
  | name {text : List Char} (whole : WholeWord text behind)
      (free : ∀ word : Keyword, word.spelling ≠ String.ofList text) :
      Stands behind ⟨text, .name, some (.name (String.ofList text))⟩
  /-- The longest mark. -/
  | mark {symbol : Mark} (longest : symbol.Longest (symbol.spelling.toList ++ behind)) :
      Stands behind ⟨symbol.spelling.toList, .mark symbol, some (.spelling symbol.spelling)⟩
  /-- Digits alone, for a number that fits a signed word. -/
  | integer {numeral : Numeral} (proper : numeral.Proper) (ends : numeral.Ends behind)
      (plain : numeral.isFloat = false) (fits : decimalValue numeral.whole ≤ 2 ^ 63 - 1) :
      Stands behind ⟨numeral.text, .integer, some (.integer (decimalValue numeral.whole))⟩
  /-- A number with a point or an exponent, as the nearest floating-point number. -/
  | float {numeral : Numeral} {nearest : Binary64} (proper : numeral.Proper)
      (ends : numeral.Ends behind) (isFloat : numeral.isFloat = true)
      (bare : Stops isFloatSuffix behind) (value : nearest.Nearest numeral.value) :
      Stands behind ⟨numeral.text, .float, some (.float nearest)⟩
  /-- A number with a point or an exponent, and the letter behind it. -/
  | suffixed {numeral : Numeral} {nearest : Binary64} {letter : Char} (proper : numeral.Proper)
      (isFloat : numeral.isFloat = true) (suffix : isFloatSuffix letter = true)
      (value : nearest.Nearest numeral.value) :
      Stands behind ⟨numeral.text ++ [letter], .float, some (.float nearest)⟩
  /-- Characters between double quotes. -/
  | string {written denoted : List Char} (spells : SpellsAll '"' written denoted) :
      Stands behind
        ⟨'"' :: written ++ ['"'], .string, some (.string (String.ofList denoted))⟩
  /-- One character between single quotes. -/
  | char {written : List Char} {c : Char} (spells : Spells '\'' written c) :
      Stands behind ⟨'\'' :: written ++ ['\''], .char, some (.char c.toNat)⟩

/-- Every lexeme has a character at least. -/
theorem Stands.text_ne_nil {behind : List Char} {lexeme : Lexeme}
    (stands : lexeme.Stands behind) : lexeme.text ≠ [] := by
  have word {text : List Char} (whole : WholeWord text behind) : text ≠ [] := by
    obtain ⟨c, first, -⟩ := whole.begins
    rintro rfl
    cases first
  have number {numeral : Numeral} (proper : numeral.Proper) : numeral.text ≠ [] := by
    simp [Numeral.text, proper.some]
  cases stands with
  | keyword whole => exact word whole
  | name whole free => exact word whole
  | mark longest => exact Mark.spelling_ne_nil _
  | integer proper ends plain fits => exact number proper
  | float proper ends isFloat bare value => exact number proper
  | suffixed proper isFloat suffix value => simp
  | string spells => simp
  | char spells => simp

/-- A whole word is read as a lexeme. -/
theorem stands_ofWord {text behind : List Char} (whole : WholeWord text behind) :
    (ofWord text).Stands behind := by
  unfold ofWord
  split
  · rename_i word found
    have spelled : text = word.spelling.toList := by
      rw [Keyword.spelling_of_ofSpelling? found, String.toList_ofList]
    subst spelled
    exact .keyword whole
  · rename_i unknown
    exact .name whole (Keyword.ofSpelling?_eq_none.mp unknown)

/-- A number that is read follows the rules. -/
theorem stands_of_number {c : Char} {rest : List Char} {lexeme : Lexeme} (digit : isDigit c = true)
    (read : number (c :: rest) = .ok lexeme) :
    ∃ behind, c :: rest = lexeme.text ++ behind ∧ lexeme.Stands behind := by
  have some : (Numeral.of (c :: rest)).whole ≠ [] := by simp [Numeral.of, digit]
  obtain ⟨behind, split, ends, proper⟩ := Numeral.proper_of (c :: rest)
  unfold number at read
  generalize Numeral.of (c :: rest) = numeral at *
  rw [split] at read ⊢
  simp only [List.drop_left] at read
  split at read
  · contradiction
  · rename_i lacks
    have proper := proper some (Bool.not_eq_true _ ▸ lacks)
    split at read
    · rename_i isFloat
      rw [Numeral.ofText?_shown proper] at read
      cases read
      have value := numeral.toBinary64_nearest
      rcases filter_take_one_cases isFloatSuffix behind with ⟨nothing, bare⟩ |
        ⟨letter, others, rfl, suffix, taken⟩
      · rw [nothing, List.append_nil]
        exact ⟨behind, rfl, .float proper ends isFloat bare value⟩
      · rw [taken]
        exact ⟨others, by simp, .suffixed proper isFloat suffix value⟩
    · rename_i plain
      rw [digitsValue_eq_decimalValue] at read
      split at read
      · rename_i fits
        cases read
        exact ⟨behind, rfl, .integer proper ends (Bool.not_eq_true _ ▸ plain) fits⟩
      · contradiction

/-- A string constant that is read follows the rules. -/
theorem stands_of_string {input : List Char} {lexeme : Lexeme} (read : string input = .ok lexeme) :
    ∃ behind, '"' :: input = lexeme.text ++ behind ∧ lexeme.Stands behind := by
  obtain ⟨spells, front⟩ := Run.spells_of input
  have split := eq_append_drop front
  unfold string at read
  simp only at read
  split at read
  · rename_i behind closed
    cases read
    rw [closed] at split
    refine ⟨behind, ?_, .string spells⟩
    simpa using split
  all_goals contradiction

/-- A character constant that is closed follows the rules. -/
theorem stands_of_closeChar {written rest : List Char} {c : Char} {lexeme : Lexeme}
    (spells : Spells '\'' written c) (read : closeChar ('\'' :: written) c rest = .ok lexeme) :
    ∃ behind, '\'' :: written ++ rest = lexeme.text ++ behind ∧ lexeme.Stands behind := by
  unfold closeChar at read
  split at read
  · rename_i behind
    cases read
    exact ⟨behind, by simp, .char spells⟩
  · contradiction

/-- A character constant that is read follows the rules. -/
theorem stands_of_char {input : List Char} {lexeme : Lexeme} (read : char input = .ok lexeme) :
    ∃ behind, '\'' :: input = lexeme.text ++ behind ∧ lexeme.Stands behind := by
  unfold char at read
  split at read
  · contradiction
  · contradiction
  · contradiction
  · contradiction
  · split at read
    · rename_i named
      exact stands_of_closeChar (.escape named) read
    · contradiction
  · rename_i c rest inline unquoted notLone notEscape
    have plain : c ≠ '\\' := by
      rintro rfl
      cases rest with
      | nil => exact notLone rfl rfl
      | cons letter more => exact notEscape letter more rfl rfl
    exact stands_of_closeChar (.itself unquoted plain inline) read

/-- A mark that is read follows the rules. -/
theorem stands_of_mark {c : Char} {rest : List Char} {lexeme : Lexeme}
    (read : mark c rest = .ok lexeme) :
    ∃ behind, c :: rest = lexeme.text ++ behind ∧ lexeme.Stands behind := by
  unfold mark at read
  split at read
  · rename_i symbol found
    cases read
    obtain ⟨begins, longest⟩ := Mark.longest_of_front? found
    have split := eq_append_drop begins
    refine ⟨_, split, .mark ?_⟩
    rw [← split]
    exact longest
  · contradiction

/-- Whatever is read off the front of a text follows the rules. -/
theorem stands_of_front {c : Char} {rest : List Char} {lexeme : Lexeme}
    (read : front c rest = .ok lexeme) :
    ∃ behind, c :: rest = lexeme.text ++ behind ∧ lexeme.Stands behind := by
  unfold front at read
  split at read
  · rename_i begins
    cases read
    have text := (ofWord_text_kind ((c :: rest).takeWhile continuesWord)).1
    refine ⟨_, ?_, stands_ofWord (WholeWord.takeWhile begins)⟩
    rw [word, text]
    exact eq_append_drop (List.takeWhile_prefix continuesWord)
  · split at read
    · rename_i digit
      exact stands_of_number digit read
    · split at read
      · rename_i double
        subst double
        exact stands_of_string read
      · split at read
        · rename_i single
          subst single
          exact stands_of_char read
        · exact stands_of_mark read

/-- No letter comes before the capital `A`. -/
theorem isAlphabetic_eq_false_of_lt {c : Char} (low : c.toNat < 0x41) :
    Text.isAlphabetic c = false := by
  unfold Text.isAlphabetic Text.CharSet.contains Text.alphabetic
  rw [Text.CharSet.covers, if_pos low]

/-- No digit begins a word. -/
theorem beginsWord_eq_false_of_isDigit {c : Char} (digit : isDigit c = true) :
    beginsWord c = false := by
  simp only [isDigit, Bool.and_eq_true, decide_eq_true_eq] at digit
  have low : c.toNat ≤ 0x39 := digit.2
  have different : c ≠ '_' := by
    rintro rfl
    exact absurd low (by decide)
  simp [beginsWord, isAlphabetic_eq_false_of_lt (show c.toNat < 0x41 by omega), different]

/-- A text that begins with a digit is read as a number. -/
theorem front_eq_number {c : Char} (digit : isDigit c = true) (rest : List Char) :
    front c rest = number (c :: rest) := by
  simp [front, beginsWord_eq_false_of_isDigit digit, digit]

/-- A mark begins with a character that begins no other lexeme. -/
theorem front_eq_mark {symbol : Mark} {c : Char} {rest behind : List Char}
    (same : c :: rest = symbol.spelling.toList ++ behind) : front c rest = mark c rest := by
  have first : ∃ first others, symbol.spelling.toList = first :: others ∧
      beginsWord first = false ∧ isDigit first = false ∧ first ≠ '"' ∧ first ≠ '\'' := by
    cases symbol <;> exact ⟨_, _, rfl, by decide⟩
  obtain ⟨first, others, spelled, noWord, noDigit, noString, noChar⟩ := first
  rw [spelled] at same
  cases same
  simp [front, noWord, noDigit, noString, noChar]

/-- A text that begins with a whole word is read as that word. -/
theorem front_of_word {text behind : List Char} {c : Char} {rest : List Char}
    (whole : WholeWord text behind) (same : c :: rest = text ++ behind) :
    front c rest = .ok (ofWord text) := by
  have begins : beginsWord c = true := by
    obtain ⟨first, head, begins⟩ := whole.begins
    cases text with
    | nil => cases head
    | cons other more =>
      cases head
      rw [(List.cons.inj same).1]
      exact begins
  rw [front, if_pos begins, word, same, whole.ends.takeWhile_append whole.continues]

/-- A text that begins with a number is read as a number, divided into its parts. -/
theorem front_of_numeral {numeral : Numeral} {behind : List Char} {c : Char} {rest : List Char}
    (proper : numeral.Proper) (ends : numeral.Ends behind)
    (same : c :: rest = numeral.text ++ behind) :
    front c rest = number (c :: rest) ∧ Numeral.of (c :: rest) = numeral ∧
      numeral.lacksDigits = false := by
  have digit : isDigit c = true := by
    cases whole : numeral.whole with
    | nil => exact absurd whole proper.some
    | cons first more =>
      simp only [Numeral.text, whole, List.cons_append] at same
      rw [(List.cons.inj same).1]
      exact proper.whole first (whole ▸ List.mem_cons_self)
  rw [same]
  exact ⟨front_eq_number digit rest ▸ same ▸ rfl, Numeral.of_text_append proper ends,
    proper.lacksDigits⟩

/-- The letter behind a floating-point constant prolongs no part of it. -/
theorem ends_suffix {numeral : Numeral} (isFloat : numeral.isFloat = true) {letter : Char}
    (suffix : isFloatSuffix letter = true) (behind : List Char) :
    numeral.Ends (letter :: behind) := by
  simp only [isFloatSuffix, Bool.or_eq_true, decide_eq_true_eq] at suffix
  refine ⟨?_, by simp [isFloat], fun _ => ?_⟩
  all_goals
    rcases suffix with rfl | rfl <;> exact Stops.cons_iff.mpr rfl

/-- A string constant is closed by the quote behind its characters. -/
theorem string_append {written denoted : List Char} (spells : SpellsAll '"' written denoted)
    (behind : List Char) : string (written ++ '"' :: behind) =
      .ok ⟨'"' :: written ++ ['"'], .string, some (.string (String.ofList denoted))⟩ := by
  simp [string, Run.of_append spells behind]

/-- A character constant is closed by the quote behind its character. -/
theorem char_append {written : List Char} {c : Char} (spells : Spells '\'' written c)
    (behind : List Char) : char (written ++ '\'' :: behind) =
      .ok ⟨'\'' :: written ++ ['\''], .char, some (.char c.toNat)⟩ := by
  cases spells with
  | itself unquoted plain inline =>
    simp [char, plain, closeChar]
  | escape named => simp [char, named, closeChar]

/-- Whatever follows the rules is read off the front of a text. -/
theorem front_of_stands {behind : List Char} {lexeme : Lexeme} {c : Char} {rest : List Char}
    (stands : lexeme.Stands behind) (same : c :: rest = lexeme.text ++ behind) :
    front c rest = .ok lexeme := by
  cases stands with
  | @keyword word whole =>
    rw [front_of_word whole same, ofWord, String.ofList_toList, Keyword.ofSpelling?_spelling]
    rfl
  | name whole free =>
    rw [front_of_word whole same, ofWord, Keyword.ofSpelling?_eq_none.mpr free]
  | mark longest =>
    have found := Mark.front?_of_longest (List.prefix_append _ _) longest
    rw [front_eq_mark same, mark, same, found]
    rfl
  | integer proper ends plain fits =>
    obtain ⟨read, parts, digits⟩ := front_of_numeral proper ends same
    have small : decimalValue _ ≤ largestInteger := fits
    rw [read, number, parts]
    simp [digits, plain, digitsValue_eq_decimalValue, small]
  | @float numeral nearest proper ends isFloat bare value =>
    obtain ⟨read, parts, digits⟩ := front_of_numeral proper ends same
    rw [read, number, parts, same, Numeral.ofText?_shown proper,
      value.unique numeral.toBinary64_nearest]
    simp [digits, isFloat, bare.filter_take_one]
  | @suffixed numeral nearest letter proper isFloat suffix value =>
    have ends := ends_suffix isFloat suffix behind
    simp only [List.append_assoc, List.cons_append, List.nil_append] at same
    obtain ⟨read, parts, digits⟩ := front_of_numeral proper ends same
    rw [read, number, parts, same, Numeral.ofText?_shown proper,
      value.unique numeral.toBinary64_nearest]
    simp [digits, isFloat, suffix]
  | string spells =>
    simp only [List.append_assoc, List.cons_append, List.nil_append] at same
    cases same
    rw [← string_append spells behind]
    rfl
  | char spells =>
    simp only [List.append_assoc, List.cons_append, List.nil_append] at same
    cases same
    rw [← char_append spells behind]
    rfl

end Lexeme

end Cpplet

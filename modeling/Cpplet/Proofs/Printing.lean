import Cpplet.Proofs.Scanning
import Cpplet.Proofs.Layout

/-!
# Reading undoes printing

A token is printed as a source would write it. Reserved words, marks, names, integer constants
and string constants of plain characters are read back from their texts, and a blank between two
of them keeps them apart, whatever they are. So a printed list of such tokens is read as the same
list (`tokenize_undoes_text`).
-/

namespace Cpplet

open Trivia Lexeme

/-- The characters that are printed so that they can be read back inside a string constant: the
visible ones of ASCII, the space, and the controls that have a short name. -/
def isPlain (c : Char) : Bool :=
  0x20 ≤ c.toNat && c.toNat ≤ 0x7e || c = '\x00' || c = '\t' || c = '\r' || c = '\n'

/-- Tokens that are read back from their texts. -/
inductive Printable : Token → Prop where
  /-- A reserved word or a mark. -/
  | fixed {kind : Kind} {spelling : String} (spelled : kind.spelling? = some spelling)
      (location : Location) : Printable (.fixed kind location)
  /-- A name that is a word and no reserved one. -/
  | name {first : Char} {others : List Char} (begins : beginsWord first = true)
      (continues : ∀ c ∈ others, continuesWord c = true)
      (free : ∀ word : Keyword, word.spelling ≠ String.ofList (first :: others))
      (location : Location) :
      Printable ⟨.name, some (.name (String.ofList (first :: others))), location⟩
  /-- An integer constant that fits a signed word. -/
  | integer {value : Int} (low : 0 ≤ value) (high : value ≤ largestInteger)
      (location : Location) : Printable ⟨.integer, some (.integer value), location⟩
  /-- A string constant of plain characters. -/
  | string {text : String} (plain : ∀ c ∈ text.toList, isPlain c = true) (location : Location) :
      Printable ⟨.string, some (.string text), location⟩

/-- A text is empty or begins with a space. -/
def Parted (behind : List Char) : Prop := ∀ c ∈ behind.head?, c = ' '

/-- A space ends a run of any class it does not belong to. -/
theorem Parted.stops {behind : List Char} (parted : Parted behind) {test : Char → Bool}
    (outside : test ' ' = false) : Stops test behind := by
  intro c first
  rw [parted c first]
  exact outside

/-- Neither a blank nor a comment begins with such a character. -/
theorem not_opens_cons {c : Char} {rest : List Char} (visible : Text.isBlank c = false)
    (different : c ≠ '/') : ¬ Opens (c :: rest) := by
  rw [← Piece.of_eq_none]
  simp [Piece.of, visible, different]

/-- At a character that begins no gap nothing is skipped. -/
theorem Cursor.next_eq_token {c : Char} {rest : List Char} (visible : Text.isBlank c = false)
    (different : c ≠ '/') (place : Location) :
    Cursor.next ⟨c :: rest, place⟩ = Cursor.token ⟨c :: rest, place⟩ :=
  Cursor.next_of_separates place .nil (not_opens_cons visible different)

/-! ## Words -/

/-- No letter is a blank. -/
theorem isBlank_eq_false_of_beginsWord {c : Char} (begins : beginsWord c = true) :
    Text.isBlank c = false := by
  rw [beginsWord, Bool.or_eq_true, decide_eq_true_eq] at begins
  rcases begins with letter | rfl
  · exact Text.CharSet.contains_eq_false_of_apart (by decide +kernel) letter
  · decide

/-- A word before a space is a whole word. -/
theorem WholeWord.of_parted {first : Char} {others behind : List Char} (parted : Parted behind)
    (begins : beginsWord first = true) (continues : ∀ c ∈ others, continuesWord c = true) :
    WholeWord (first :: others) behind where
  begins := ⟨first, rfl, begins⟩
  continues := by
    intro c member
    rcases List.mem_cons.mp member with rfl | member
    · exact continuesWord_of_beginsWord begins
    · exact continues c member
  ends := parted.stops (by decide)

/-- A word is no gap. -/
theorem WholeWord.not_opens {text behind : List Char} (whole : WholeWord text behind) :
    ¬ Opens (text ++ behind) := by
  obtain ⟨c, first, begins⟩ := whole.begins
  cases text with
  | nil => cases first
  | cons other others =>
    cases first
    apply not_opens_cons (isBlank_eq_false_of_beginsWord begins)
    rintro rfl
    exact absurd begins (by decide)

/-- Every reserved word is a word. -/
theorem Keyword.wholeWord (word : Keyword) {behind : List Char} (parted : Parted behind) :
    WholeWord word.spelling.toList behind := by
  have shape : ∃ first others, word.spelling.toList = first :: others ∧
      beginsWord first = true ∧ others.all continuesWord = true := by
    cases word <;> exact ⟨_, _, rfl, by decide⟩
  obtain ⟨first, others, spelled, begins, continues⟩ := shape
  rw [spelled]
  exact .of_parted parted begins (List.all_eq_true.mp continues)

/-! ## Marks -/

/-- Before a space every mark is the longest one. -/
theorem Mark.longest_of_parted (symbol : Mark) {behind : List Char} (parted : Parted behind) :
    symbol.Longest (symbol.spelling.toList ++ behind) := by
  intro other front
  apply Nat.le_of_not_lt
  intro longer
  have within : symbol.spelling.toList <+: other.spelling.toList :=
    List.prefix_of_prefix_length_le (List.prefix_append _ _) front (Nat.le_of_lt longer)
  obtain ⟨more, spelled⟩ := within
  rw [← spelled, List.prefix_append_right_inj] at front
  cases more with
  | nil =>
    rw [← spelled, List.append_nil] at longer
    exact absurd longer (Nat.lt_irrefl _)
  | cons c more =>
    -- The longer mark goes on with the space, but no mark has one.
    have space : c = ' ' := by
      obtain ⟨rest, rfl⟩ := front
      exact parted c rfl
    have spaceless : ' ' ∉ other.spelling.toList := by
      cases other <;> decide
    apply spaceless
    rw [← spelled, space]
    simp

/-- A mark before a space is no gap. -/
theorem Mark.not_opens (symbol : Mark) {behind : List Char} (parted : Parted behind) :
    ¬ Opens (symbol.spelling.toList ++ behind) := by
  rw [← Piece.of_eq_none]
  cases behind with
  | nil => cases symbol <;> rfl
  | cons c rest =>
    obtain rfl := parted c rfl
    cases symbol <;> rfl

/-! ## Integers -/

/-- The digits of a number are digits. -/
theorem isDigit_of_mem_natDigits {n : Nat} {c : Char} (member : c ∈ Decimal.natDigits n) :
    isDigit c = true := by
  have digit := Nat.isDigit_of_mem_toDigits (by decide) (by decide) member
  simpa [isDigit, Char.isDigit, Char.le_def] using digit

/-- The digits of a number denote it. -/
theorem digitsValue_natDigits (n : Nat) : digitsValue (Decimal.natDigits n) = n :=
  Nat.ofDigitChars_toDigits (by decide) (by decide)

/-- No digit is a blank. -/
theorem isBlank_eq_false_of_isDigit {c : Char} (digit : isDigit c = true) :
    Text.isBlank c = false := by
  simp only [isDigit, Bool.and_eq_true, decide_eq_true_eq] at digit
  have low : 0x30 ≤ c.toNat := digit.1
  have high : c.toNat ≤ 0x39 := digit.2
  simp only [Text.isBlank, Text.CharSet.contains, Text.blank, Text.CharSet.covers]
  rw [if_neg (by omega), if_neg (by omega), if_neg (by omega), if_neg (by omega),
    if_pos (by omega)]

/-- Digits before a space are an integer constant. -/
theorem stands_natDigits {n : Nat} (fits : n ≤ largestInteger) {behind : List Char}
    (parted : Parted behind) :
    Stands behind ⟨Decimal.natDigits n, .integer, some (.integer n)⟩ := by
  have proper : (⟨Decimal.natDigits n, none, none⟩ : Numeral).Proper :=
    ⟨Nat.toDigits_ne_nil, fun _ member => isDigit_of_mem_natDigits member, by simp, by simp⟩
  have ends : (⟨Decimal.natDigits n, none, none⟩ : Numeral).Ends behind :=
    ⟨parted.stops rfl, fun _ => parted.stops rfl, fun _ => parted.stops rfl⟩
  have value : decimalValue (Decimal.natDigits n) = n := by
    rw [← digitsValue_eq_decimalValue, digitsValue_natDigits]
  have stands := Stands.integer proper ends rfl (value.trans_le fits)
  simpa [Numeral.text, Numeral.fractionText, value] using stands

/-- Digits are no gap. -/
theorem not_opens_natDigits (n : Nat) (behind : List Char) :
    ¬ Opens (Decimal.natDigits n ++ behind) := by
  have some : Decimal.natDigits n ≠ [] := Nat.toDigits_ne_nil
  obtain ⟨c, others, digits⟩ := List.exists_cons_of_ne_nil some
  have digit : isDigit c = true := by
    apply @isDigit_of_mem_natDigits n
    rw [digits]
    exact List.mem_cons_self
  rw [digits]
  apply not_opens_cons (isBlank_eq_false_of_isDigit digit)
  rintro rfl
  exact absurd digit (by decide)

/-! ## Strings -/

/-- A short name is one of the letters that name its character. -/
theorem unescape?_of_shortName? {c name : Char} (short : Text.shortName? c = some name) :
    unescape? name = some c := by
  unfold Text.shortName? at short
  split at short <;> cases short <;> rfl

/-- What stands for itself in ASCII can be seen. -/
theorem isInvisible_eq_false_of_ascii {c : Char} (low : 0x20 ≤ c.toNat) (high : c.toNat ≤ 0x7e) :
    Text.isInvisible c = false := by
  unfold Text.isInvisible Text.CharSet.contains Text.invisible
  rw [Text.CharSet.covers, if_neg (by omega), if_neg (by omega), Text.CharSet.covers,
    if_pos (by omega)]

/-- A plain character is printed as one of the ways to write it. -/
theorem spells_escaped {c : Char} (plain : isPlain c = true) :
    Spells '"' (Text.escaped c) c := by
  unfold Text.escaped
  split
  · rename_i name short
    exact .escape (unescape?_of_shortName? short)
  · rename_i unnamed
    have different {other name : Char} (short : Text.shortName? other = some name) :
        c ≠ other := by
      rintro rfl
      rw [short] at unnamed
      cases unnamed
    have ascii : 0x20 ≤ c.toNat ∧ c.toNat ≤ 0x7e := by
      simpa [isPlain, @different '\x00' _ rfl, @different '\t' _ rfl, @different '\r' _ rfl,
        @different '\n' _ rfl] using plain
    rw [isInvisible_eq_false_of_ascii ascii.1 ascii.2]
    exact .itself (different rfl) (different rfl) (different rfl)

/-- Plain characters are printed as one of the ways to write them. -/
theorem spellsAll_escaped {text : List Char} (plain : ∀ c ∈ text, isPlain c = true) :
    SpellsAll '"' (text.flatMap Text.escaped) text := by
  induction text with
  | nil => exact .nil
  | cons c text ih =>
    rw [List.flatMap_cons]
    rw [List.forall_mem_cons] at plain
    exact .cons (spells_escaped plain.1) (ih plain.2)

/-! ## Lists of tokens -/

/-- The lexeme that a token is printed as. -/
def Token.lexeme (token : Token) : Lexeme := ⟨token.text.toList, token.kind, token.value⟩

/-- Before a space the text of a printable token is its lexeme, and is no gap. -/
theorem Printable.stands {token : Token} (printable : Printable token) {behind : List Char}
    (parted : Parted behind) :
    token.lexeme.Stands behind ∧ ¬ Opens (token.lexeme.text ++ behind) := by
  cases printable with
  | @fixed kind spelling spelled location =>
    cases kind with
    | keyword word =>
      have whole := word.wholeWord parted
      exact ⟨.keyword whole, whole.not_opens⟩
    | mark symbol => exact ⟨.mark (symbol.longest_of_parted parted), symbol.not_opens parted⟩
    | _ => cases spelled
  | name begins continues free location =>
    have whole := WholeWord.of_parted parted begins continues
    simp only [Token.lexeme, Token.text, Value.text, String.toList_ofList]
    exact ⟨.name whole free, whole.not_opens⟩
  | integer low high location =>
    obtain ⟨n, rfl⟩ := Int.eq_ofNat_of_zero_le low
    have fits : n ≤ largestInteger := Int.ofNat_le.mp high
    simp only [Token.lexeme, Token.text, Value.text, String.toList_ofList]
    exact ⟨stands_natDigits fits parted, not_opens_natDigits n behind⟩
  | @string text plain location =>
    have spells := spellsAll_escaped plain
    have stands := @Stands.string behind _ _ spells
    rw [String.ofList_toList] at stands
    simp only [Token.lexeme, Token.text, Value.text, Text.quoted, String.toList_ofList]
    exact ⟨stands, not_opens_cons (by decide) (by decide)⟩

/-- What follows a printed token is parted from it. -/
theorem parted_flatMap (tokens : List Token) :
    Parted (tokens.flatMap (' ' :: ·.text.toList)) := by
  cases tokens with
  | nil => exact fun c first => by cases first
  | cons token tokens =>
    intro c first
    exact (Option.some.inj first).symm

/-- Joining by single spaces puts a space before every text but the first. -/
theorem intercalate_eq_flatMap (token : Token) (tokens : List Token) :
    " ".toList.intercalate ((token :: tokens).map (String.toList ∘ Token.text)) =
      token.text.toList ++ tokens.flatMap (' ' :: ·.text.toList) := by
  induction tokens generalizing token with
  | nil => exact List.intercalate_singleton.trans (List.append_nil _).symm
  | cons next tokens ih =>
    rw [List.map_cons, List.map_cons, List.intercalate_cons_cons, ← List.map_cons, ih,
      List.flatMap_cons, List.append_assoc]
    rfl

/-- From a place on, a text is read as tokens that say what the given ones say, and then the end
of the file. -/
def Printed (place : Location) (text : List Char) (tokens : List Token) : Prop :=
  ∃ found location, Scanned place text (found ++ [.eof location]) ∧
    found.map Token.content = tokens.map Token.content

namespace Printed

/-- A gap that ends the file holds no token. -/
theorem nil {gap : List Char} (separates : Separates [] gap) (place : Location) :
    Printed place gap [] :=
  ⟨[], _, .eof separates, rfl⟩

/-- One more token is printed in front, behind nothing or a space. -/
theorem cons {token : Token} (printable : Printable token) {tokens : List Token}
    {gap behind : List Char} (parted : Parted behind)
    (separates : Separates (token.text.toList ++ behind) gap)
    (rest : ∀ place, Printed place behind tokens) (place : Location) :
    Printed place (gap ++ (token.text.toList ++ behind)) (token :: tokens) := by
  obtain ⟨stands, plain⟩ := printable.stands parted
  obtain ⟨found, location, scanned, same⟩ := rest ((place.past gap).past token.text.toList)
  refine ⟨⟨token.kind, token.value, place.past gap⟩ :: found, location, ?_, ?_⟩
  · exact @Scanned.token place gap behind token.lexeme _ separates plain stands.text_ne_nil stands
      scanned
  · rw [List.map_cons, List.map_cons, same]
    rfl

/-- Tokens behind spaces are printed one after the other. -/
theorem flatMap {tokens : List Token} (printable : ∀ token ∈ tokens, Printable token)
    (place : Location) : Printed place (tokens.flatMap (' ' :: ·.text.toList)) tokens := by
  induction tokens generalizing place with
  | nil => exact nil .nil place
  | cons token tokens ih =>
    rw [List.forall_mem_cons] at printable
    have space : Separates (token.text.toList ++ tokens.flatMap (' ' :: ·.text.toList)) [' '] :=
      .blank (by decide) .nil
    exact cons printable.1 (parted_flatMap tokens) space (ih printable.2) place

end Printed

/-- Reading undoes printing. The texts of printable tokens, joined by single spaces, are read as
tokens of the same kinds and values in the same order, and then the end of the file. -/
theorem tokenize_undoes_text {tokens : List Token}
    (printable : ∀ token ∈ tokens, Printable token) :
    ∃ found location,
      tokenize (" ".intercalate (tokens.map Token.text)) = .ok (found ++ [.eof location]) ∧
        found.map Token.content = tokens.map Token.content := by
  have printed : Printed .start (" ".intercalate (tokens.map Token.text)).toList tokens := by
    rw [String.toList_intercalate, List.map_map]
    cases tokens with
    | nil => exact .nil .nil .start
    | cons token tokens =>
      rw [List.forall_mem_cons] at printable
      rw [intercalate_eq_flatMap]
      exact .cons printable.1 (parted_flatMap tokens) .nil (.flatMap printable.2) .start
  obtain ⟨found, location, scanned, same⟩ := printed
  exact ⟨found, location, tokenize_eq_ok_iff.mpr scanned, same⟩

/-- The marks `/` and `=`, a name, and a string constant with a quote in it are read back. -/
theorem tokenize_undoes_text_marks :
    ∃ found location,
      tokenize "x / = 7 \"\\\"\"" = .ok (found ++ [.eof location]) ∧
        found.map Token.content =
          [(.name, some (.name "x")), (.mark .slash, some (.spelling "/")),
            (.mark .assign, some (.spelling "=")), (.integer, some (.integer 7)),
            (.string, some (.string "\""))] := by
  have name : Printable ⟨.name, some (.name "x"), .start⟩ :=
    @Printable.name 'x' [] (by decide) (by simp) (by intro word; cases word <;> decide) .start
  have integer : Printable ⟨.integer, some (.integer 7), .start⟩ :=
    .integer (by decide) (by simp [largestInteger]) .start
  have string : Printable ⟨.string, some (.string "\""), .start⟩ :=
    .string (List.all_eq_true.mp (by decide)) .start
  have mark (symbol : Mark) : Printable (.fixed (.mark symbol) .start) := .fixed rfl .start
  have printable : ∀ token ∈ [⟨.name, some (.name "x"), .start⟩, .fixed (.mark .slash) .start,
      .fixed (.mark .assign) .start, ⟨.integer, some (.integer 7), .start⟩,
      ⟨.string, some (.string "\""), .start⟩], Printable token := by
    simp [name, integer, string, mark]
  have text : " ".intercalate (List.map Token.text
      [⟨.name, some (.name "x"), .start⟩, .fixed (.mark .slash) .start,
        .fixed (.mark .assign) .start, ⟨.integer, some (.integer 7), .start⟩,
        ⟨.string, some (.string "\""), .start⟩]) = "x / = 7 \"\\\"\"" := by
    cbv
  rw [← text]
  exact tokenize_undoes_text printable

end Cpplet

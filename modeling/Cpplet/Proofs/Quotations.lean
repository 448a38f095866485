import Cpplet.Proofs.Cursors
import Cpplet.Proofs.Printing

/-!
# Quotations are read back

A string constant is read exactly where characters are spelled up to a closing quote, and a
character constant exactly where one character is; both denote what is spelled, and reading goes
on directly behind the closing quote. Every text can be spelled, so every string is denoted by
some constant, and by every constant that spells it. Where no constant stands, reading fails, and
blames a place between the opening quote and the point where it stopped
(`quotations_read_back`).
-/

namespace Cpplet

/-- How the value of a string constant is written between its quotes. -/
inductive StringWritten : List Char → Value → Prop where
  /-- Its characters are spelled one after the other. -/
  | spelled {written : List Char} {text : String} (spells : SpellsAll '"' written text.toList) :
      StringWritten written (.string text)

/-- How the value of a character constant is written between its quotes. -/
inductive CharWritten : List Char → Value → Prop where
  /-- Its character is spelled. -/
  | spelled {written : List Char} {c : Char} (spells : Spells '\'' written c) :
      CharWritten written (.char c.toNat)

/-- Reading at a cursor fails: it blames a place behind some of the characters that it has read,
and stops behind all of them. -/
def Cursor.FailsWithin (cursor : Cursor) : Prop :=
  ∃ flaw lead read, lead <+: read ∧ read <+: cursor.rest ∧
    cursor.next = (.error ⟨flaw, cursor.location.past lead⟩, cursor.past read)

/-- Whether constants in some quotes are read where their values are written between the quotes,
and nowhere else, and reading fails within its text where none is. -/
def ReadBack (quote : Char) (kind : Kind) (writes : List Char → Value → Prop) : Prop :=
  ∀ (input : List Char) (place : Location),
    (∀ value stop, Cursor.next ⟨quote :: input, place⟩ = (.ok ⟨kind, some value, place⟩, stop) ↔
      ∃ written behind, input = written ++ quote :: behind ∧ writes written value ∧
        stop = ⟨behind, place.past (quote :: written ++ [quote])⟩) ∧
    ((∃ value stop, Cursor.next ⟨quote :: input, place⟩ =
        (.ok ⟨kind, some value, place⟩, stop)) ∨
      Cursor.FailsWithin ⟨quote :: input, place⟩)

/-- The letters behind a backslash, with the characters that they name. -/
def namedCharacters : List (Char × Char) :=
  [('n', '\n'), ('t', '\t'), ('r', '\r'), ('b', '\x08'), ('f', '\x0c'), ('v', '\x0b'),
    ('0', '\x00'), ('\\', '\\'), ('\'', '\''), ('"', '"'), ('?', '?')]

/-- An escape stands for a character exactly where its letter is listed with it. -/
theorem unescape?_eq_some_iff {letter c : Char} :
    unescape? letter = some c ↔ (letter, c) ∈ namedCharacters := by
  constructor
  · intro named
    unfold unescape? at named
    split at named <;> cases named <;> decide
  · intro listed
    have named : ∀ pair ∈ namedCharacters, unescape? pair.1 = some pair.2 := by decide
    exact named (letter, c) listed

/-- Every character can be spelled in a string constant: by its escape where it has to be, and
by itself otherwise. -/
theorem exists_spells (c : Char) : ∃ written, Spells '"' written c := by
  by_cases special : Run.isSpecial c = true
  · simp only [Run.isSpecial, Bool.or_eq_true, decide_eq_true_eq] at special
    rcases special with (rfl | rfl) | rfl
    · exact ⟨_, @Spells.escape '"' '"' '"' rfl⟩
    · exact ⟨_, @Spells.escape '"' '\\' '\\' rfl⟩
    · exact ⟨_, @Spells.escape '"' 'n' '\n' rfl⟩
  · simp only [Run.isSpecial, Bool.or_eq_true, decide_eq_true_eq, not_or] at special
    obtain ⟨⟨unquoted, plain⟩, inline⟩ := special
    exact ⟨[c], .itself unquoted plain inline⟩

/-- Every text can be spelled in a string constant. -/
theorem exists_spellsAll (text : List Char) : ∃ written, SpellsAll '"' written text := by
  induction text with
  | nil => exact ⟨[], .nil⟩
  | cons c text ih =>
    obtain ⟨first, spells⟩ := exists_spells c
    obtain ⟨others, rest⟩ := ih
    exact ⟨first ++ others, .cons spells rest⟩

/-- A misfit at a cursor is a failure within what was read. -/
theorem Cursor.failsWithin_of_misread {cursor : Cursor} {misfit : Misfit}
    (inside : misfit.StandsIn cursor.rest) (read : cursor.next = cursor.misread misfit) :
    cursor.FailsWithin :=
  ⟨misfit.flaw, misfit.lead, misfit.read, inside.blamed, inside.front, read⟩

/-- What is needed of quotes so that constants in them are read back: the quote begins no gap and
no lexeme of another kind, and a lexeme of this kind is a value that is written between quotes. -/
structure Quotes (quote : Char) (kind : Kind) (writes : List Char → Value → Prop) : Prop where
  /-- The quote is no blank. -/
  visible : Text.isBlank quote = false
  /-- The quote begins no comment. -/
  different : quote ≠ '/'
  /-- The kind is not that of the end of the file. -/
  inner : kind ≠ .eof
  /-- Behind the quote nothing else is read. -/
  only : ∀ {input lexeme}, Lexeme.front quote input = .ok lexeme → lexeme.kind = kind
  /-- A lexeme of the kind has its value written between the quotes. -/
  shape : ∀ {behind} {lexeme : Lexeme}, lexeme.Stands behind → lexeme.kind = kind →
    ∃ written value, lexeme = ⟨quote :: written ++ [quote], kind, some value⟩ ∧
      writes written value
  /-- A value that is written between the quotes is a lexeme of the kind. -/
  stands : ∀ {written value}, writes written value → ∀ behind,
    Lexeme.Stands behind ⟨quote :: written ++ [quote], kind, some value⟩

namespace Quotes

variable {quote : Char} {kind : Kind} {writes : List Char → Value → Prop}

/-- At a quote nothing is skipped. -/
theorem next_eq_token (quotes : Quotes quote kind writes) (input : List Char) (place : Location) :
    Cursor.next ⟨quote :: input, place⟩ = Cursor.token ⟨quote :: input, place⟩ :=
  Cursor.next_eq_token quotes.visible quotes.different place

/-- A constant is read where its value is written between the quotes, and nowhere else. -/
theorem reads_iff (quotes : Quotes quote kind writes) {input : List Char} {place : Location}
    {value : Value} {stop : Cursor} :
    Cursor.next ⟨quote :: input, place⟩ = (.ok ⟨kind, some value, place⟩, stop) ↔
      ∃ written behind, input = written ++ quote :: behind ∧ writes written value ∧
        stop = ⟨behind, place.past (quote :: written ++ [quote])⟩ := by
  rw [quotes.next_eq_token]
  constructor
  · intro read
    obtain ⟨lexeme, split, -, stands, same, location⟩ :=
      Cursor.exists_lexeme_of_token read quotes.inner
    have kinds : lexeme.kind = kind := (congrArg Token.kind same).symm
    obtain ⟨written, denoted, rfl, writes⟩ := quotes.shape stands kinds
    cases same
    refine ⟨written, stop.rest, by simpa using split, writes, ?_⟩
    rw [← location]
  · rintro ⟨written, behind, rfl, writes, rfl⟩
    have stands := quotes.stands writes behind
    have read := Cursor.token_of_stands place stands.text_ne_nil stands
    simpa using read

/-- Where no constant is read, reading fails within its text. -/
theorem reads_or_fails (quotes : Quotes quote kind writes) (input : List Char)
    (place : Location) :
    (∃ value stop, Cursor.next ⟨quote :: input, place⟩ = (.ok ⟨kind, some value, place⟩, stop)) ∨
      Cursor.FailsWithin ⟨quote :: input, place⟩ := by
  have here := quotes.next_eq_token input place
  cases found : Lexeme.front quote input with
  | ok lexeme =>
    obtain ⟨behind, split, stands⟩ := Lexeme.stands_of_front found
    obtain ⟨written, value, rfl, -⟩ := quotes.shape stands (quotes.only found)
    have read : Cursor.token ⟨quote :: input, place⟩ = (.ok ⟨kind, some value, place⟩,
        Cursor.past ⟨quote :: input, place⟩ (quote :: written ++ [quote])) := by
      rw [Cursor.token]
      simp only [found]
    exact .inl ⟨value, _, here.trans read⟩
  | error misfit =>
    have read : Cursor.token ⟨quote :: input, place⟩ =
        Cursor.misread ⟨quote :: input, place⟩ misfit := by
      rw [Cursor.token]
      simp only [found]
    have inside := Lexeme.standsIn_of_front found
    exact .inr (Cursor.failsWithin_of_misread inside (here.trans read))

/-- Constants in quotes are read back. -/
theorem readBack (quotes : Quotes quote kind writes) : ReadBack quote kind writes :=
  fun input place => ⟨fun _ _ => quotes.reads_iff, quotes.reads_or_fails input place⟩

end Quotes

namespace Lexeme

/-- What is read behind a double quote is a string constant. -/
theorem kind_of_string {input : List Char} {lexeme : Lexeme} (read : string input = .ok lexeme) :
    lexeme.kind = .string := by
  unfold string at read
  simp only at read
  split at read
  · cases read
    rfl
  all_goals contradiction

/-- What is closed by a single quote is a character constant. -/
theorem kind_of_closeChar {written rest : List Char} {c : Char} {lexeme : Lexeme}
    (read : closeChar written c rest = .ok lexeme) : lexeme.kind = .char := by
  unfold closeChar at read
  split at read
  · cases read
    rfl
  · contradiction

/-- What is read behind a single quote is a character constant. -/
theorem kind_of_char {input : List Char} {lexeme : Lexeme} (read : char input = .ok lexeme) :
    lexeme.kind = .char := by
  unfold char at read
  split at read
  case h_5 =>
    split at read
    · exact kind_of_closeChar read
    · contradiction
  case h_6 => exact kind_of_closeChar read
  all_goals contradiction

end Lexeme

/-- String constants stand between double quotes. -/
theorem quotes_string : Quotes '"' .string StringWritten where
  visible := by decide
  different := by decide
  inner := by decide
  only read := Lexeme.kind_of_string read
  shape stands kind := by
    cases stands with
    | @string written denoted spells =>
      have same : (String.ofList denoted).toList = denoted := String.toList_ofList
      exact ⟨written, _, rfl, .spelled (same.symm ▸ spells)⟩
    | _ => cases kind
  stands writes behind := by
    cases writes with
    | spelled spells =>
      have stands := @Lexeme.Stands.string behind _ _ spells
      rw [String.ofList_toList] at stands
      exact stands

/-- Character constants stand between single quotes. -/
theorem quotes_char : Quotes '\'' .char CharWritten where
  visible := by decide
  different := by decide
  inner := by decide
  only read := Lexeme.kind_of_char read
  shape stands kind := by
    cases stands with
    | @char written c spells => exact ⟨written, _, rfl, .spelled spells⟩
    | _ => cases kind
  stands writes behind := by
    cases writes with
    | spelled spells => exact .char spells

/-- Quotations are read back. String constants and character constants are read exactly where
their values are written between the quotes, and reading fails within its text at any other quote.
Every text can be written as a string constant, and the escapes that occur are the listed ones. -/
theorem quotations_read_back :
    ReadBack '"' .string StringWritten ∧ ReadBack '\'' .char CharWritten ∧
      (∀ text : String, ∃ written, StringWritten written (.string text)) ∧
      ∀ letter c, unescape? letter = some c ↔ (letter, c) ∈ namedCharacters := by
  refine ⟨quotes_string.readBack, quotes_char.readBack, ?_, fun _ _ => unescape?_eq_some_iff⟩
  intro text
  obtain ⟨written, spells⟩ := exists_spellsAll text.toList
  exact ⟨written, .spelled spells⟩

end Cpplet

import Cpplet.Proofs.Scanning

/-!
# Tokens are named on one line

Whatever stands in a token of a source, what listings call it has no line break: digits and words
have none, and string constants write them as escapes. What messages call a token has no line
feed. A character constant is shown there as itself unless it is a control, so it may be a
separator of lines.
-/

namespace Cpplet

/-! ## Texts without line breaks -/

namespace Text

/-- The characters that break a line where text is shown: the controls from the line feed to the
carriage return, the next line, and the separators of lines and of paragraphs. -/
def lineBreaks : List Char := ['\n', '\x0b', '\x0c', '\r', '\x85', '\u2028', '\u2029']

/-- A text without line breaks. -/
def OneLine (text : List Char) : Prop := ∀ c ∈ text, c ∉ lineBreaks

instance (text : List Char) : Decidable (OneLine text) :=
  List.decidableBAll (· ∉ lineBreaks) text

/-- Characters that pass a test which no line break passes are none. -/
theorem not_mem_lineBreaks {test : Char → Bool} (breaks : lineBreaks.any test = false)
    {c : Char} (passes : test c = true) : c ∉ lineBreaks :=
  fun member => List.any_eq_false.mp breaks c member passes

namespace OneLine

variable {text first second : List Char}

/-- Two texts without line breaks make one. -/
theorem append (left : OneLine first) (right : OneLine second) : OneLine (first ++ second) :=
  List.forall_mem_append.mpr ⟨left, right⟩

/-- A text without line breaks has none behind another character. -/
theorem cons {c : Char} (inside : c ∉ lineBreaks) (rest : OneLine text) : OneLine (c :: text) :=
  List.forall_mem_cons.mpr ⟨inside, rest⟩

/-- A part of a text without line breaks has none. -/
theorem sublist (whole : OneLine text) {part : List Char} (inside : part.Sublist text) :
    OneLine part :=
  fun c member => whole c (inside.subset member)

/-- A text without line breaks has no line feed. -/
theorem inline (whole : OneLine text) : '\n' ∉ text :=
  fun member => whole '\n' member List.mem_cons_self

/-- A character again and again is no line break if it is none. -/
theorem replicate {c : Char} (inside : c ∉ lineBreaks) (n : Nat) :
    OneLine (List.replicate n c) := by
  intro other member
  rw [List.eq_of_mem_replicate member]
  exact inside

/-- Texts without line breaks, joined by one, make one. -/
theorem intercalate {separator : List Char} (between : OneLine separator) {texts : List (List Char)}
    (each : ∀ text ∈ texts, OneLine text) : OneLine (separator.intercalate texts) := by
  induction texts with
  | nil => exact fun c member => absurd member (by simp)
  | cons text others ih =>
    rw [List.forall_mem_cons] at each
    cases others with
    | nil =>
      rw [List.intercalate_singleton]
      exact each.1
    | cons next others =>
      rw [List.intercalate_cons_cons]
      exact (each.1.append between).append (ih each.2)

end OneLine

/-- Digits in any base hold no line break. -/
theorem oneLine_toDigits {base : Nat} (proper : 1 < base) (n : Nat) :
    OneLine (Nat.toDigits base n) := by
  have digit (d : Nat) : d.digitChar ∉ lineBreaks := by
    have listed : ∀ c ∈ lineBreaks, d.digitChar ≠ c := by
      simp [lineBreaks]
    exact fun member => listed _ member rfl
  induction n using Nat.strongRecOn with
  | ind n ih =>
    rw [Nat.toDigits_eq_if proper]
    split
    · exact OneLine.cons (digit n) nofun
    · have fewer : n / base < n := Nat.div_lt_self (by omega) proper
      exact (ih _ fewer).append (.cons (digit _) nofun)

/-- Quoted text holds no line break. -/
theorem oneLine_quoted (text : String) : OneLine (quoted text).toList := by
  have escapes (c : Char) : OneLine (escaped c) := by
    unfold escaped
    split
    · rename_i name short
      unfold shortName? at short
      split at short <;> cases short <;> decide
    · split
      · exact .append (.append (by decide) (oneLine_toDigits (by decide) _)) (by decide)
      · rename_i visible
        have hidden : lineBreaks.any (fun c => !isInvisible c) = false := by decide +kernel
        exact .cons (not_mem_lineBreaks hidden (by simpa using visible)) nofun
  rw [quoted, String.toList_ofList, quotedChars]
  refine .append (.cons (by decide) fun c member => ?_) (by decide)
  obtain ⟨written, -, inside⟩ := List.mem_flatMap.mp member
  exact escapes written c inside

end Text

open Text (OneLine oneLine_toDigits)

/-! ## Numbers -/

namespace Decimal

/-- Decimal digits hold no line break. -/
theorem oneLine_natDigits (n : Nat) : OneLine (natDigits n) := oneLine_toDigits (by decide) n

/-- A whole number is shown without line breaks. -/
theorem oneLine_intDigits (value : Int) : OneLine (intDigits value) := by
  cases value with
  | ofNat n => exact oneLine_natDigits n
  | negSucc n => exact .cons (by decide) (oneLine_natDigits (n + 1))

/-- A decimal is shown without line breaks in either notation. -/
theorem Scaled.oneLine_chars (decimal : Scaled) : OneLine decimal.chars := by
  have digits := oneLine_natDigits decimal.digits
  unfold chars
  split
  · unfold positional
    simp only
    split
    · exact (OneLine.append (by decide) (.replicate (by decide) _)).append digits
    · split
      · exact (digits.append (.replicate (by decide) _)).append (by decide)
      · refine (digits.sublist (List.take_sublist _ _)).append (.cons (by decide) ?_)
        exact digits.sublist (List.drop_sublist _ _)
  · unfold scientific
    simp only
    have fraction : OneLine (if (natDigits decimal.digits).length = 1 then [] else
        '.' :: (natDigits decimal.digits).drop 1) := by
      split
      · nofun
      · exact .cons (by decide) (digits.sublist (List.drop_sublist _ _))
    have whole := (digits.sublist (List.take_sublist 1 _)).append fraction
    exact whole.append (.cons (by decide) (oneLine_intDigits _))

/-- A floating-point number is shown without line breaks. -/
theorem Binary64.oneLine_text (x : Binary64) : OneLine x.text.toList := by
  have magnitude : OneLine x.magnitude := by
    unfold magnitude
    split
    · decide
    · split
      · decide
      · exact Scaled.oneLine_chars _
  unfold text
  split
  · decide
  · rw [String.toList_ofList]
    split
    · exact .cons (by decide) magnitude
    · exact magnitude

end Decimal

/-! ## Names of tokens -/

/-- A reserved word holds no line break. -/
theorem Keyword.oneLine_spelling (word : Keyword) : OneLine word.spelling.toList := by
  cases word <;> decide

/-- A mark holds no line break. -/
theorem Mark.oneLine_spelling (symbol : Mark) : OneLine symbol.spelling.toList := by
  cases symbol <;> decide

namespace Kind

/-- The category name of a kind holds no line break. -/
theorem oneLine_category (kind : Kind) : OneLine kind.category.toList := by
  cases kind with
  | keyword word => cases word <;> decide
  | mark symbol => cases symbol <;> decide
  | _ => decide

/-- The description of a kind holds no line break. -/
theorem oneLine_describe (kind : Kind) : OneLine kind.describe.toList := by
  have between {spelling : String} (spelled : OneLine spelling.toList) :
      OneLine ("'" ++ spelling ++ "'").toList := by
    simp only [String.toList_append]
    exact (OneLine.append (by decide) spelled).append (by decide)
  cases kind with
  | keyword word => exact between word.oneLine_spelling
  | mark symbol => exact between symbol.oneLine_spelling
  | _ => decide

end Kind

namespace Token

/-- Whether the content of a token is shown without line breaks. -/
def KeepsLine (token : Token) : Prop := ∀ value ∈ token.value, OneLine value.text.toList

/-- What listings call such a token holds no line break. -/
theorem KeepsLine.oneLine_label {token : Token} (keeps : token.KeepsLine) :
    OneLine token.label.toList := by
  have category := token.kind.oneLine_category
  have text : OneLine token.text.toList := by
    unfold text
    split
    · rename_i value found
      exact keeps value found
    · exact category
  unfold label
  split
  · simp only [String.toList_append]
    exact ((category.append (by decide)).append text).append (by decide)
  · exact category

/-- A character constant is described without a line feed: a control is written by its code. -/
theorem inline_describeChar (code : Nat) : '\n' ∉ (describeChar code).toList := by
  have byCode : '\n' ∉ (describeCode code).toList := by
    have digits : OneLine (Text.hexDigits code) := oneLine_toDigits (by decide) code
    have zeros (n : Nat) : OneLine (List.replicate n '0') := .replicate (by decide) n
    rw [describeCode, String.toList_ofList]
    exact (((OneLine.append (by decide) (zeros _)).append digits).append (by decide)).inline
  have between {c : Char} (visible : ¬ isControl c = true) : '\n' ∉ ['\'', c, '\''] := by
    intro member
    obtain rfl : '\n' = c := by simpa using member
    exact visible (by decide)
  by_cases valid : code.isValidChar
  · rw [describeChar, dif_pos valid]
    dsimp only
    by_cases control : isControl (Char.ofNatAux code valid) = true
    · rw [if_pos control]
      exact byCode
    · rw [if_neg control, String.toList_ofList]
      exact between control
  · rw [describeChar, dif_neg valid]
    exact byCode

/-- What messages call such a token holds no line feed. -/
theorem KeepsLine.inline_describe {token : Token} (keeps : token.KeepsLine) :
    '\n' ∉ token.describe.toList := by
  have behind {value : Value} (found : token.value = some value) {words : String}
      (plain : OneLine words.toList) : OneLine (words ++ value.text).toList := by
    rw [String.toList_append]
    exact plain.append (keeps value found)
  unfold describe
  split
  · rename_i value _ found
    rw [String.toList_append]
    exact ((behind found (by decide)).append (by decide)).inline
  · rename_i value _ found
    exact (behind found (by decide)).inline
  · rename_i value _ found
    exact (behind found (by decide)).inline
  · rename_i code _ _
    rw [String.toList_append, List.mem_append, not_or]
    exact ⟨by decide, inline_describeChar code⟩
  · rename_i value _ found
    exact (behind found (by decide)).inline
  · exact token.kind.oneLine_describe.inline

end Token

/-! ## Tokens of a source -/

/-- What a lexeme denotes is shown without line breaks. -/
theorem Lexeme.Stands.keepsLine {behind : List Char} {lexeme : Lexeme}
    (stands : lexeme.Stands behind) (place : Location) :
    Token.KeepsLine ⟨lexeme.kind, lexeme.value, place⟩ := by
  intro value found
  cases stands with
  | keyword whole =>
    cases found
    exact Keyword.oneLine_spelling _
  | name whole free =>
    cases found
    rw [Value.text, String.toList_ofList]
    exact fun c member =>
      Text.not_mem_lineBreaks (by decide +kernel) (whole.continues c member)
  | mark longest =>
    cases found
    exact Mark.oneLine_spelling _
  | integer proper ends plain fits =>
    cases found
    rw [Value.text, String.toList_ofList]
    exact Decimal.oneLine_intDigits _
  | float proper ends isFloat bare value =>
    cases found
    exact Decimal.Binary64.oneLine_text _
  | suffixed proper isFloat suffix value =>
    cases found
    exact Decimal.Binary64.oneLine_text _
  | string spells =>
    cases found
    exact Text.oneLine_quoted _
  | char spells =>
    cases found
    rw [Value.text, Decimal.natText, String.toList_ofList]
    exact Decimal.oneLine_natDigits _

/-- A token that is read is shown without line breaks. -/
theorem Cursor.keepsLine_of_next {cursor behind : Cursor} {token : Token}
    (read : cursor.next = (.ok token, behind)) : token.KeepsLine := by
  by_cases final : token.kind = .eof
  · rw [Cursor.eq_eof_of_kind read final]
    nofun
  · obtain ⟨gap, rest, -, -, -, here⟩ := exists_gap_of_next read
    obtain ⟨lexeme, -, -, stands, rfl, -⟩ := exists_lexeme_of_token here final
    exact stands.keepsLine _

/-- The tokens of a chain of gaps and lexemes are shown without line breaks. -/
theorem Scanned.keepsLine {place : Location} {text : List Char} {tokens : List Token}
    (scanned : Scanned place text tokens) : ∀ token ∈ tokens, token.KeepsLine := by
  induction scanned with
  | eof separates => exact List.forall_mem_singleton.mpr nofun
  | token separates plain some stands rest ih =>
    exact List.forall_mem_cons.mpr ⟨stands.keepsLine _, ih⟩

/-- The lookahead of a feed that is read is shown without line breaks. -/
theorem Feeds.keepsLine_current {cursor : Cursor} {feed : Feed} (feeds : Feeds cursor (.ok feed)) :
    feed.current.KeepsLine := by
  cases feeds with
  | eof read final => nofun
  | last read inner rest => exact Cursor.keepsLine_of_next read
  | more read inner rest => exact Cursor.keepsLine_of_next read

end Cpplet

import Cpplet.Proofs.Feeds

/-!
# Reading goes forward

Every token but the end of the file takes a character at least. So the characters that are left
are enough to count the tokens, reading them one behind the other stops at the end of the file or
at the first error, and the places of tokens increase strictly. A feed holds exactly what reading
all tokens at once finds: the same tokens, or the same error behind the tokens before it.
-/

namespace Cpplet

/-- Every mark is written with a character at least. -/
theorem Mark.spelling_ne_nil (symbol : Mark) : symbol.spelling.toList ≠ [] := by
  cases symbol <;> simp [Mark.spelling]

namespace Lexeme

/-- A word as a lexeme keeps its characters, and is no end of the file. -/
theorem ofWord_text_kind (word : List Char) :
    (ofWord word).text = word ∧ (ofWord word).kind ≠ .eof := by
  unfold ofWord
  split <;> simp [fixed]

/-- A number takes its first digit, and is no end of the file. -/
theorem number_text_kind {c : Char} {rest : List Char} {lexeme : Lexeme} (digit : isDigit c = true)
    (read : number (c :: rest) = .ok lexeme) : lexeme.text ≠ [] ∧ lexeme.kind ≠ .eof := by
  have whole : (Numeral.of (c :: rest)).text ≠ [] := by
    simp [Numeral.text, Numeral.of, digit]
  unfold number at read
  simp only at read
  split at read
  · contradiction
  · split at read
    · split at read
      · cases read
        simp [whole]
      · contradiction
    · split at read
      · cases read
        simp [whole]
      · contradiction

/-- A string constant takes its opening quote, and is no end of the file. -/
theorem string_text_kind {input : List Char} {lexeme : Lexeme}
    (read : string input = .ok lexeme) : lexeme.text ≠ [] ∧ lexeme.kind ≠ .eof := by
  unfold string at read
  simp only at read
  split at read
  · cases read
    simp
  all_goals contradiction

/-- Closing a character constant keeps what was written before. -/
theorem closeChar_text_kind {written : List Char} {c : Char} {rest : List Char} {lexeme : Lexeme}
    (read : closeChar written c rest = .ok lexeme) : lexeme.text ≠ [] ∧ lexeme.kind ≠ .eof := by
  unfold closeChar at read
  split at read
  · cases read
    simp
  · contradiction

/-- A character constant takes its opening quote, and is no end of the file. -/
theorem char_text_kind {input : List Char} {lexeme : Lexeme} (read : char input = .ok lexeme) :
    lexeme.text ≠ [] ∧ lexeme.kind ≠ .eof := by
  unfold char at read
  split at read
  · contradiction
  · contradiction
  · contradiction
  · contradiction
  · split at read
    · exact closeChar_text_kind read
    · contradiction
  · exact closeChar_text_kind read

/-- A mark takes its spelling, and is no end of the file. -/
theorem mark_text_kind {c : Char} {rest : List Char} {lexeme : Lexeme}
    (read : mark c rest = .ok lexeme) : lexeme.text ≠ [] ∧ lexeme.kind ≠ .eof := by
  unfold mark at read
  split at read
  · rename_i symbol found
    cases read
    exact ⟨symbol.spelling_ne_nil, by simp [fixed]⟩
  · contradiction

/-- What begins a word may also stand in it. -/
theorem continuesWord_of_beginsWord {c : Char} (begins : beginsWord c = true) :
    continuesWord c = true := by
  simp only [beginsWord, continuesWord, Bool.or_eq_true] at begins ⊢
  rcases begins with letter | underscore
  · exact .inl (.inl letter)
  · exact .inr underscore

/-- Every lexeme takes a character at least, and none is the end of the file. -/
theorem front_text_kind {c : Char} {rest : List Char} {lexeme : Lexeme}
    (read : front c rest = .ok lexeme) : lexeme.text ≠ [] ∧ lexeme.kind ≠ .eof := by
  unfold front at read
  split at read
  · rename_i begins
    cases read
    have continues := continuesWord_of_beginsWord begins
    have shape := ofWord_text_kind ((c :: rest).takeWhile continuesWord)
    refine ⟨?_, shape.2⟩
    rw [word, shape.1]
    simp [continues]
  · split at read
    · rename_i digit
      exact number_text_kind digit read
    · split at read
      · exact string_text_kind read
      · split at read
        · exact char_text_kind read
        · exact mark_text_kind read

end Lexeme

namespace Location

/-- Whether one place stands before another. -/
def Before (first second : Location) : Prop :=
  first.line < second.line ∨ first.line = second.line ∧ first.column < second.column

/-- No place stands before itself. -/
theorem not_before_self (place : Location) : ¬ place.Before place := by
  simp [Before]

/-- Places are ordered. -/
theorem Before.trans {first second third : Location} (left : first.Before second)
    (right : second.Before third) : first.Before third := by
  simp only [Before] at *
  omega

/-- A character moves forward. -/
theorem before_after (place : Location) (c : Char) : place.Before (place.after c) := by
  unfold after
  split <;> simp [Before]

/-- A text moves forward unless it is empty. -/
theorem empty_or_before_past (place : Location) (text : List Char) :
    text = [] ∨ place.Before (place.past text) := by
  induction text generalizing place with
  | nil => exact .inl rfl
  | cons c text ih =>
    refine .inr ?_
    rw [past_cons]
    rcases ih (place.after c) with rfl | forward
    · exact before_after place c
    · exact (before_after place c).trans forward

/-- A text never moves back. -/
theorem eq_or_before_past (place : Location) (text : List Char) :
    place = place.past text ∨ place.Before (place.past text) := by
  rcases place.empty_or_before_past text with rfl | forward
  · exact .inl rfl
  · exact .inr forward

end Location

namespace Cursor

/-- A text that is not empty leaves fewer characters behind it. -/
theorem length_rest_past_lt {cursor : Cursor} {text : List Char} (left : cursor.rest ≠ [])
    (taken : text ≠ []) : (cursor.past text).rest.length < cursor.rest.length := by
  have some : 0 < cursor.rest.length := List.length_pos_iff.mpr left
  have step : 0 < text.length := List.length_pos_iff.mpr taken
  simp only [past, List.length_drop]
  omega

/-- What reading a token at a cursor tells of it: the end of the file stands where nothing is
left, and any other token takes a text that is not empty. -/
theorem token_ok {cursor behind : Cursor} {token : Token}
    (read : cursor.token = (.ok token, behind)) :
    (cursor.rest = [] ∧ token = .eof cursor.location ∧ behind = cursor) ∨
      ∃ text, text ≠ [] ∧ token.kind ≠ .eof ∧ token.location = cursor.location ∧
        cursor.rest ≠ [] ∧ behind = cursor.past text := by
  unfold Cursor.token at read
  split at read
  · rename_i nothing
    simp only [Prod.mk.injEq, Except.ok.injEq] at read
    exact .inl ⟨nothing, read.1.symm, read.2.symm⟩
  · rename_i c rest some
    split at read
    · rename_i lexeme found
      obtain ⟨text, kind⟩ := Lexeme.front_text_kind found
      simp only [Prod.mk.injEq, Except.ok.injEq] at read
      obtain ⟨rfl, rfl⟩ := read
      exact .inr ⟨lexeme.text, text, kind, rfl, by simp [some], rfl⟩
    · simp [misread] at read

/-- What reading the next token tells of it: it stands behind what is skipped, and the end of the
file is the only token that takes no character. -/
theorem next_ok {cursor behind : Cursor} {token : Token}
    (read : cursor.next = (.ok token, behind)) :
    ∃ skipped, token.location = cursor.location.past skipped ∧
      ((token = .eof token.location ∧ behind = cursor.past skipped) ∨
        token.kind ≠ .eof ∧ behind.rest.length < cursor.rest.length ∧
          token.location.Before behind.location) := by
  unfold next at read
  split at read
  · rename_i skipped found
    refine ⟨skipped, ?_⟩
    rcases token_ok read with ⟨-, rfl, rfl⟩ | ⟨text, taken, kind, place, left, rfl⟩
    · exact ⟨rfl, .inl ⟨rfl, rfl⟩⟩
    · refine ⟨place, .inr ⟨kind, ?_, ?_⟩⟩
      · have fewer := length_rest_past_lt left taken
        have skip : (cursor.past skipped).rest.length ≤ cursor.rest.length := by simp [past]
        omega
      · rw [place]
        exact ((cursor.past skipped).location.empty_or_before_past text).resolve_left taken
  · simp [misread] at read

/-- A token that is not the end of the file leaves fewer characters. -/
theorem length_rest_lt_of_inner {cursor behind : Cursor} {token : Token}
    (read : cursor.next = (.ok token, behind)) (inner : token.kind ≠ .eof) :
    behind.rest.length < cursor.rest.length := by
  obtain ⟨-, -, ⟨final, -⟩ | ⟨-, fewer, -⟩⟩ := next_ok read
  · exact absurd (congrArg Token.kind final) inner
  · exact fewer

/-- The end of the file is known by its kind. -/
theorem eq_eof_of_kind {cursor behind : Cursor} {token : Token}
    (read : cursor.next = (.ok token, behind)) (final : token.kind = .eof) :
    token = .eof token.location := by
  obtain ⟨-, -, ⟨same, -⟩ | ⟨inner, -, -⟩⟩ := next_ok read
  · exact same
  · exact absurd final inner

end Cursor

/-- What reading token after token from a cursor on comes to, step by step. -/
inductive Feeds : Cursor → Except Fault Feed → Prop where
  /-- The next token cannot be read. -/
  | fault {cursor stop : Cursor} {error : LexicalError}
      (read : cursor.next = (.error error, stop)) : Feeds cursor (.error ⟨error, stop⟩)
  /-- The next token is the end of the file. -/
  | eof {cursor behind : Cursor} {token : Token} (read : cursor.next = (.ok token, behind))
      (final : token.kind = .eof) : Feeds cursor (.ok (.eof token.location))
  /-- Behind the next token the source cannot be read. -/
  | last {cursor behind : Cursor} {token : Token} {fault : Fault}
      (read : cursor.next = (.ok token, behind)) (inner : token.kind ≠ .eof)
      (rest : Feeds behind (.error fault)) : Feeds cursor (.ok (.last token fault))
  /-- Behind the next token there are more. -/
  | more {cursor behind : Cursor} {token : Token} {feed : Feed}
      (read : cursor.next = (.ok token, behind)) (inner : token.kind ≠ .eof)
      (rest : Feeds behind (.ok feed)) : Feeds cursor (.ok (.more token feed))

namespace Feed

/-- A feed is what reading token after token comes to, as long as the rounds last. -/
theorem feeds_within {rounds : List Char} {cursor : Cursor}
    (enough : cursor.rest.length ≤ rounds.length) : Feeds cursor (within rounds cursor) := by
  induction rounds generalizing cursor with
  | nil =>
    unfold within
    split
    · rename_i read
      exact .fault read
    · rename_i token behind read
      by_cases final : token.kind = .eof
      · rw [if_pos final]
        exact .eof read final
      · have fewer := Cursor.length_rest_lt_of_inner read final
        simp only [List.length_nil] at enough
        omega
  | cons round rounds ih =>
    unfold within
    split
    · rename_i read
      exact .fault read
    · rename_i token behind read
      by_cases final : token.kind = .eof
      · rw [if_pos final]
        exact .eof read final
      · rw [if_neg final]
        have fewer := Cursor.length_rest_lt_of_inner read final
        have rest : Feeds behind (within rounds behind) := by
          apply ih
          simp only [List.length_cons] at enough
          omega
        cases result : within rounds behind with
        | ok feed =>
          simp only [result]
          exact .more read final (result ▸ rest)
        | error fault =>
          simp only [result]
          exact .last read final (result ▸ rest)

/-- The feed of a cursor is what reading token after token from it comes to. -/
theorem feeds_ofCursor (cursor : Cursor) : Feeds cursor (ofCursor cursor) :=
  feeds_within (Nat.le_refl _)

/-- What reading all tokens of a feed at once comes to. -/
def batch : Feed → Except LexicalError (List Token)
  | .eof location => .ok [.eof location]
  | .last _ fault => .error fault.error
  | .more token rest => rest.batch.map (token :: ·)

/-- What reading all tokens at once comes to, given what token after token comes to. -/
def batchOf : Except Fault Feed → Except LexicalError (List Token)
  | .ok feed => feed.batch
  | .error fault => .error fault.error

/-- Reading all tokens at once finds what reading token after token finds. -/
theorem drain_of_feeds {rounds : List Char} {cursor : Cursor} {result : Except Fault Feed}
    (feeds : Feeds cursor result) (enough : cursor.rest.length ≤ rounds.length) :
    (drain Cursor.next rounds cursor).1 = batchOf result := by
  induction feeds generalizing rounds with
  | fault read =>
    unfold drain
    simp only [read, batchOf]
  | eof read final =>
    unfold drain
    simp only [read, final, ↓reduceIte, batchOf, batch]
    exact congrArg (fun token => Except.ok [token]) (Cursor.eq_eof_of_kind read final)
  | @last cursor behind token fault read inner rest ih =>
    have fewer := Cursor.length_rest_lt_of_inner read inner
    obtain ⟨round, rounds, rfl⟩ := List.exists_cons_of_length_pos (l := rounds) (by omega)
    simp only [List.length_cons] at enough
    have found := @ih rounds (by omega)
    unfold drain
    simp only [read, inner, ↓reduceIte]
    rcases result : drain Cursor.next rounds behind with ⟨tokens, stop⟩
    rw [result] at found
    simp only at found
    simp only [found, batchOf, batch]
  | @more cursor behind token feed read inner rest ih =>
    have fewer := Cursor.length_rest_lt_of_inner read inner
    obtain ⟨round, rounds, rfl⟩ := List.exists_cons_of_length_pos (l := rounds) (by omega)
    simp only [List.length_cons] at enough
    have found := @ih rounds (by omega)
    unfold drain
    simp only [read, inner, ↓reduceIte]
    rcases result : drain Cursor.next rounds behind with ⟨tokens, stop⟩
    rw [result] at found
    simp only [batchOf] at found
    simp only [found, batchOf, batch]
    cases feed.batch <;> rfl

/-- The tokens of a source are those of its feed. -/
theorem tokenize_eq_batchOf (source : String) :
    tokenize source = batchOf (ofCursor (.ofSource source)) :=
  drain_of_feeds (feeds_ofCursor _) (Nat.le_refl _)

/-- A feed whose tokens can all be read has the end of the file behind them. -/
theorem eq_append_of_batch {feed : Feed} {tokens : List Token} (listed : feed.batch = .ok tokens) :
    ∃ (body : List Token) (location : Location),
      feed = body ++ eof location ∧ tokens = body ++ [.eof location] := by
  induction feed generalizing tokens with
  | eof location =>
    cases listed
    exact ⟨[], location, rfl, rfl⟩
  | last token fault => cases listed
  | more token rest ih =>
    rw [batch] at listed
    cases behind : rest.batch with
    | error error =>
      rw [behind] at listed
      cases listed
    | ok others =>
      rw [behind] at listed
      cases listed
      obtain ⟨body, location, rfl, rfl⟩ := ih behind
      exact ⟨token :: body, location, rfl, rfl⟩

/-- Reading all tokens of a feed at once finds those that can be read one by one. -/
theorem tokens_of_batch {feed : Feed} {tokens : List Token} (listed : feed.batch = .ok tokens) :
    feed.tokens = tokens := by
  obtain ⟨body, location, rfl, rfl⟩ := eq_append_of_batch listed
  exact tokens_append body (eof location)

/-- A feed that was read has the end of the file nowhere but at its end. -/
theorem proper_of_feeds {cursor : Cursor} {feed : Feed} (feeds : Feeds cursor (.ok feed)) :
    feed.Proper := by
  generalize result : Except.ok feed = found at feeds
  induction feeds generalizing feed with
  | fault read => cases result
  | eof read final =>
    cases result
    trivial
  | last read inner rest ih =>
    cases result
    exact inner
  | more read inner rest ih =>
    cases result
    exact ⟨inner, ih rfl⟩

/-- The tokens of a feed that was read stand behind one another, from the cursor on. -/
theorem ordered_of_feeds {cursor : Cursor} {feed : Feed} (feeds : Feeds cursor (.ok feed)) :
    (∀ token ∈ feed.tokens, cursor.location = token.location ∨
        cursor.location.Before token.location) ∧
      feed.tokens.Pairwise fun first second => first.location.Before second.location := by
  generalize result : Except.ok feed = found at feeds
  -- The cursor is carried along, since the tokens behind one stand at or behind its end.
  induction feeds generalizing feed with
  | fault read => cases result
  | @eof cursor behind token read final =>
    cases result
    obtain ⟨skipped, place, -⟩ := Cursor.next_ok read
    refine ⟨?_, List.pairwise_singleton _ _⟩
    intro other member
    obtain rfl := List.mem_singleton.mp member
    exact place ▸ cursor.location.eq_or_before_past skipped
  | @last cursor behind token fault read inner rest ih =>
    cases result
    obtain ⟨skipped, place, -⟩ := Cursor.next_ok read
    refine ⟨?_, List.pairwise_singleton _ _⟩
    intro other member
    obtain rfl := List.mem_singleton.mp member
    exact place ▸ cursor.location.eq_or_before_past skipped
  | @more cursor behind token feed read inner rest ih =>
    cases result
    obtain ⟨skipped, place, ⟨final, -⟩ | ⟨-, -, forward⟩⟩ := Cursor.next_ok read
    · exact absurd (congrArg Token.kind final) inner
    · obtain ⟨later, ordered⟩ := ih rfl
      have start : cursor.location = token.location ∨ cursor.location.Before token.location :=
        place ▸ cursor.location.eq_or_before_past skipped
      have beyond : ∀ other ∈ feed.tokens, token.location.Before other.location := by
        intro other member
        rcases later other member with same | further
        · exact same ▸ forward
        · exact forward.trans further
      refine ⟨?_, List.pairwise_cons.mpr ⟨beyond, ordered⟩⟩
      intro other member
      rcases List.mem_cons.mp member with rfl | member
      · exact start
      · rcases start with same | before
        · exact .inr (same ▸ beyond other member)
        · exact .inr (before.trans (beyond other member))

end Feed

end Cpplet

import Cpplet.Pointer
import Cpplet.Proofs.Cursors

/-!
# Pointers keep count

The four fields of a pointer agree (`Pointer.Counts`): the position is inside the source, the
character is the one at the position, the line counts the line feeds before it and the column the
characters behind the last of them. One step keeps this (`Pointer.Counts.advance`), and a pointer
is moved by steps alone, so every reading keeps it, whether it fails or not.

A pointer reads what the cursor with the characters that are left reads
(`Pointer.Counts.next_eq`). Reading a token never goes back, goes forward for every token but the
end of the file, and does not move at the end of the file.
-/

namespace Cpplet

/-- What stands behind the last line feed of a text. -/
def Text.lastLine (text : List Char) : List Char := (text.reverse.takeWhile (· ≠ '\n')).reverse

/-- Draining keeps what reading one token keeps. -/
theorem drain_induction {State : Type} {next : State → Except LexicalError Token × State}
    {Good : State → Prop} (step : ∀ state, Good state → Good (next state).2)
    {rounds : List Char} {state : State} (good : Good state) :
    Good (drain next rounds state).2 := by
  have behind {state : State} {result : Except LexicalError Token} {stop : State}
      (read : next state = (result, stop)) (good : Good state) : Good stop := by
    have kept := step state good
    rwa [read] at kept
  induction rounds generalizing state with
  | nil =>
    unfold drain
    split
    · rename_i read
      exact behind read good
    · rename_i read
      split
      · exact behind read good
      · exact behind read good
  | cons round rounds ih =>
    unfold drain
    split
    · rename_i read
      exact behind read good
    · rename_i read
      split
      · exact behind read good
      · have stop := ih (behind read good)
        dsimp only
        split
        · rename_i result
          rwa [result] at stop
        · rename_i result
          rwa [result] at stop

/-- How all tokens come to be read: the first one is the end of the file, or the rounds are over,
or the others are read behind it. -/
theorem drain_cases {State : Type} {next : State → Except LexicalError Token × State}
    {rounds : List Char} {state stop : State} {tokens : List Token}
    (read : drain next rounds state = (.ok tokens, stop)) :
    ∃ token behind, next state = (.ok token, behind) ∧
      (token.kind = .eof ∧ tokens = [token] ∧ stop = behind ∨
        token.kind ≠ .eof ∧ (rounds = [] ∨ ∃ round fewer others, rounds = round :: fewer ∧
          tokens = token :: others ∧ drain next fewer behind = (.ok others, stop))) := by
  unfold drain at read
  split at read
  · cases read
  · rename_i token behind first
    refine ⟨token, behind, first, ?_⟩
    split at read
    · rename_i final
      cases read
      exact .inl ⟨final, rfl, rfl⟩
    · rename_i inner
      split at read
      · exact .inr ⟨inner, .inl rfl⟩
      · rename_i round fewer
        split at read
        · rename_i others last rest
          cases read
          exact .inr ⟨inner, .inr ⟨round, fewer, others, rfl, rfl, rest⟩⟩
        · cases read

/-- Draining comes to the same for two readers of one token that do, seen from one of them. -/
theorem drain_map {State Other : Type} {next : State → Except LexicalError Token × State}
    {other : Other → Except LexicalError Token × Other} {view : State → Other}
    {Good : State → Prop}
    (step : ∀ state, Good state →
      Good (next state).2 ∧ other (view state) = ((next state).1, view (next state).2))
    {rounds : List Char} {state : State} (good : Good state) :
    drain other rounds (view state) =
      ((drain next rounds state).1, view (drain next rounds state).2) := by
  induction rounds generalizing state with
  | nil =>
    obtain ⟨-, same⟩ := step state good
    unfold drain
    rw [same]
    rcases next state with ⟨error | token, stop⟩
    · rfl
    · dsimp only
      split <;> rfl
  | cons round rounds ih =>
    obtain ⟨behind, same⟩ := step state good
    unfold drain
    rw [same]
    rcases read : next state with ⟨error | token, stop⟩
    · rfl
    · rw [read] at behind
      dsimp only
      split
      · rfl
      · rw [ih behind]
        rcases drain next rounds stop with ⟨error | tokens, last⟩ <;> rfl

namespace Pointer

variable {source : List Char} {pointer : Pointer}

/-- The four fields of a pointer agree with each other and with the source. -/
structure Counts (source : List Char) (pointer : Pointer) : Prop where
  /-- No more characters were passed than there are. -/
  inside : pointer.position ≤ source.length
  /-- The character kept is the one at the position. -/
  current : pointer.current = source[pointer.position]?
  /-- There is none just at the end of the source. -/
  final : pointer.current = none ↔ pointer.position = source.length
  /-- The line counts the line feeds that were passed. -/
  line : pointer.line = 1 + (source.take pointer.position).count '\n'
  /-- The column counts the characters that were passed behind the last line feed. -/
  column : pointer.column = 1 + (Text.lastLine (source.take pointer.position)).length

/-! ## Steps -/

/-- At the end of the source there is no step. -/
theorem advance_of_none (ended : pointer.current = none) : pointer.advance source = pointer := by
  rw [advance, ended]

/-- A step over a character. -/
theorem advance_of_some {c : Char} (here : pointer.current = some c) :
    pointer.advance source =
      { position := pointer.position + 1
        line := if c = '\n' then pointer.line + 1 else pointer.line
        column := if c = '\n' then 1 else pointer.column + 1
        current := source[pointer.position + 1]? } := by
  rw [advance, here]

/-- No step is made over nothing. -/
@[simp]
theorem stepOver_nil (source : List Char) (pointer : Pointer) :
    pointer.stepOver source [] = pointer := rfl

/-- The first step is made over the first character. -/
@[simp]
theorem stepOver_cons (source : List Char) (pointer : Pointer) (c : Char) (text : List Char) :
    pointer.stepOver source (c :: text) = (pointer.advance source).stepOver source text := rfl

/-- The front of a source counts as it should. -/
theorem counts_start (source : List Char) : (start source).Counts source := by
  refine ⟨Nat.zero_le _, List.head?_eq_getElem?, ?_, rfl, rfl⟩
  rw [start, List.head?_eq_none_iff, ← List.length_eq_zero_iff]
  exact eq_comm

/-- What stands behind the last line feed, one character later. -/
theorem length_lastLine_append (text : List Char) (c : Char) :
    (Text.lastLine (text ++ [c])).length =
      if c = '\n' then 0 else (Text.lastLine text).length + 1 := by
  by_cases feed : c = '\n' <;> simp [Text.lastLine, feed]

/-- A step keeps count. -/
theorem Counts.advance (counts : pointer.Counts source) :
    (pointer.advance source).Counts source := by
  cases here : pointer.current with
  | none => rwa [advance_of_none here]
  | some c =>
    have found : source[pointer.position]? = some c := counts.current.symm.trans here
    obtain ⟨within, -⟩ := List.getElem?_eq_some_iff.mp found
    have passed : source.take (pointer.position + 1) = source.take pointer.position ++ [c] := by
      rw [List.take_add_one, found, Option.toList_some]
    rw [advance_of_some here]
    constructor
    · exact within
    · rfl
    · rw [List.getElem?_eq_none_iff]
      show source.length ≤ pointer.position + 1 ↔ pointer.position + 1 = source.length
      omega
    · dsimp only
      rw [passed, List.count_append, List.count_singleton, counts.line]
      by_cases feed : c = '\n' <;> simp [feed, Nat.add_assoc]
    · dsimp only
      rw [passed, length_lastLine_append, counts.column]
      split <;> omega

/-- Steps keep count, however many are asked for. -/
theorem Counts.stepOver (counts : pointer.Counts source) (text : List Char) :
    (pointer.stepOver source text).Counts source := by
  induction text generalizing pointer with
  | nil => exact counts
  | cons c text ih => exact ih counts.advance

/-- Steps do not go back. -/
theorem position_le_stepOver (source : List Char) (pointer : Pointer) (text : List Char) :
    pointer.position ≤ (pointer.stepOver source text).position := by
  induction text generalizing pointer with
  | nil => exact Nat.le_refl _
  | cons c text ih =>
    refine Nat.le_trans ?_ (ih (pointer.advance source))
    unfold Pointer.advance
    split
    · exact Nat.le_refl _
    · exact Nat.le_succ _

/-- Steps go forward where a character stands. -/
theorem position_lt_stepOver {c : Char} (here : pointer.current = some c) {text : List Char}
    (some : text ≠ []) : pointer.position < (pointer.stepOver source text).position := by
  obtain ⟨first, more, rfl⟩ := List.exists_cons_of_ne_nil some
  have step : pointer.position < (pointer.advance source).position := by
    rw [advance_of_some here]
    exact Nat.lt_succ_self _
  exact Nat.lt_of_lt_of_le step (position_le_stepOver source _ more)

/-! ## Readings -/

/-- What a reading does to a pointer, whatever comes of it: it makes steps. -/
theorem exists_stepOver_token (source : List Char) (pointer : Pointer) :
    ∃ text, (pointer.token source).2 = pointer.stepOver source text := by
  unfold token
  split
  · exact ⟨[], rfl⟩
  · split
    · exact ⟨_, rfl⟩
    · exact ⟨_, rfl⟩

/-- Skipping and reading a token makes steps, whatever comes of it. -/
theorem exists_stepOver_next (source : List Char) (pointer : Pointer) :
    ∃ text, (pointer.next source).2 = pointer.stepOver source text := by
  unfold next
  split
  · rename_i skipped _
    obtain ⟨text, moved⟩ := exists_stepOver_token source (pointer.stepOver source skipped)
    refine ⟨skipped ++ text, ?_⟩
    rw [moved, stepOver, stepOver, stepOver, List.foldl_append]
  · exact ⟨_, rfl⟩

/-- Reading a token keeps count, whatever comes of it. -/
theorem Counts.next (counts : pointer.Counts source) : (pointer.next source).2.Counts source := by
  obtain ⟨text, moved⟩ := exists_stepOver_next source pointer
  rw [moved]
  exact counts.stepOver text

/-- Where a reading stops, the pointer counts as it should. -/
theorem Counts.of_next {result : Except LexicalError Token} {stop : Pointer}
    (counts : pointer.Counts source) (read : pointer.next source = (result, stop)) :
    stop.Counts source := by
  have kept := counts.next
  rwa [read] at kept

/-- Reading all tokens keeps count, whatever comes of it. -/
theorem Counts.tokens (counts : pointer.Counts source) :
    (pointer.tokens source).2.Counts source :=
  drain_induction (fun _ good => good.next) counts

/-- Reading a token does not go back, whatever comes of it. -/
theorem position_le_next (source : List Char) (pointer : Pointer) :
    pointer.position ≤ (pointer.next source).2.position := by
  obtain ⟨text, moved⟩ := exists_stepOver_next source pointer
  rw [moved]
  exact position_le_stepOver source pointer text

/-- A token that is read is the end of the file, where reading stops and the source ends, or
reading has gone forward. -/
theorem next_cases {token : Token} {stop : Pointer}
    (read : pointer.next source = (.ok token, stop)) :
    stop.current = none ∧ token = .eof stop.location ∨
      token.kind ≠ .eof ∧ pointer.position < stop.position := by
  unfold Pointer.next at read
  split at read
  · rename_i skipped _
    have forward := position_le_stepOver source pointer skipped
    generalize pointer.stepOver source skipped = here at *
    unfold Pointer.token at read
    split at read
    · rename_i ended
      cases read
      exact .inl ⟨ended, rfl⟩
    · rename_i c found
      split at read
      · rename_i lexeme fronted
        obtain ⟨some, inner⟩ := Lexeme.front_text_kind fronted
        cases read
        exact .inr ⟨inner, Nat.lt_of_le_of_lt forward (position_lt_stepOver found some)⟩
      · cases read
  · cases read

/-- Where a source ends, reading finds its end and does not move. -/
theorem next_of_none (ended : pointer.current = none) :
    pointer.next source = (.ok (.eof pointer.location), pointer) := by
  have nothing : pointer.rest source = [] := by rw [rest, ended]
  have skipped : Trivia.skip [] = .ok [] := rfl
  rw [next, nothing, skipped]
  dsimp only
  rw [stepOver_nil, token, ended]

/-- A reading that found the end of the file finds it again, and moves no more. -/
theorem next_of_eof {token : Token} {stop : Pointer}
    (read : pointer.next source = (.ok token, stop)) (final : token.kind = .eof) :
    stop.next source = (.ok token, stop) := by
  rcases next_cases read with ⟨ended, rfl⟩ | ⟨inner, -⟩
  · exact next_of_none ended
  · exact absurd final inner

/-- As many characters are left as were not passed. -/
theorem Counts.rest_eq (counts : pointer.Counts source) :
    pointer.rest source = source.drop pointer.position := by
  cases here : pointer.current with
  | none =>
    have ended : pointer.position = source.length := counts.final.mp here
    rw [rest, here, ended, List.drop_length]
  | some c =>
    have found : source[pointer.position]? = some c := counts.current.symm.trans here
    obtain ⟨within, same⟩ := List.getElem?_eq_some_iff.mp found
    rw [rest, here, List.drop_eq_getElem_cons within, same]

/-- Fewer characters are left behind a token that is not the end of the file. -/
theorem Counts.left_lt {token : Token} {stop : Pointer} (counts : pointer.Counts source)
    (read : pointer.next source = (.ok token, stop)) (inner : token.kind ≠ .eof) :
    source.length - stop.position < source.length - pointer.position := by
  have inside := (counts.of_next read).inside
  rcases next_cases read with ⟨-, rfl⟩ | ⟨-, forward⟩
  · exact absurd rfl inner
  · omega

/-- All tokens end with the end of the file, and reading stops where it is found again. -/
theorem Counts.next_of_drain (counts : pointer.Counts source) {rounds : List Char}
    {tokens : List Token} {stop : Pointer}
    (enough : source.length - pointer.position ≤ rounds.length)
    (read : drain (Pointer.next source) rounds pointer = (.ok tokens, stop)) :
    ∃ token, tokens.getLast? = some token ∧ token.kind = .eof ∧
      stop.next source = (.ok token, stop) := by
  -- A round takes a token, and every token but the last leaves fewer characters for the others.
  induction rounds generalizing pointer tokens with
  | nil =>
    obtain ⟨token, behind, first, ⟨final, rfl, rfl⟩ | ⟨inner, -⟩⟩ := drain_cases read
    · exact ⟨token, rfl, final, next_of_eof first final⟩
    · have fewer := counts.left_lt first inner
      rw [List.length_nil] at enough
      omega
  | cons round rounds ih =>
    obtain ⟨token, behind, first, ⟨final, rfl, rfl⟩ | ⟨inner, later⟩⟩ := drain_cases read
    · exact ⟨token, rfl, final, next_of_eof first final⟩
    · have fewer := counts.left_lt first inner
      rw [List.length_cons] at enough
      obtain none | ⟨_, _, others, same, rfl, rest⟩ := later
      · cases none
      · cases same
        obtain ⟨found, last, final, again⟩ := ih (counts.of_next first) (by omega) rest
        refine ⟨found, ?_, final, again⟩
        rw [List.getLast?_cons, last]
        rfl

/-! ## Pointers and cursors -/

/-- A pointer as a cursor: what is left, and the place. -/
def toCursor (source : List Char) (pointer : Pointer) : Cursor :=
  ⟨pointer.rest source, pointer.location⟩

/-- The front of a source is the front of it. -/
theorem toCursor_start (source : String) :
    (start source.toList).toCursor source.toList = .ofSource source := by
  rw [toCursor, (counts_start source.toList).rest_eq]
  rfl

/-- A step leads behind the character. -/
theorem Counts.toCursor_advance (counts : pointer.Counts source) {c : Char}
    (here : pointer.current = some c) :
    (pointer.advance source).toCursor source = (pointer.toCursor source).past [c] := by
  rw [toCursor, counts.advance.rest_eq, toCursor, rest, here, advance_of_some here]
  by_cases feed : c = '\n' <;> simp [Cursor.past, location, Location.after, feed]

/-- Steps over a text that stands at a pointer lead behind the text. -/
theorem Counts.toCursor_stepOver (counts : pointer.Counts source) {text : List Char}
    (front : text <+: pointer.rest source) :
    (pointer.stepOver source text).toCursor source = (pointer.toCursor source).past text := by
  induction text generalizing pointer with
  | nil => rfl
  | cons c text ih =>
    cases here : pointer.current with
    | none =>
      rw [rest, here] at front
      exact absurd (List.eq_nil_of_prefix_nil front) (List.cons_ne_nil _ _)
    | some first =>
      rw [rest, here, List.cons_prefix_cons] at front
      obtain ⟨rfl, front⟩ := front
      have left : (pointer.advance source).rest source = source.drop (pointer.position + 1) := by
        rw [counts.advance.rest_eq, advance_of_some here]
      rw [stepOver_cons, ih counts.advance (left ▸ front), counts.toCursor_advance here,
        ← Cursor.past_append, List.singleton_append]

/-- A misfit at a pointer is one at its cursor. -/
theorem Counts.misread_eq (counts : pointer.Counts source) {misfit : Misfit}
    (stands : misfit.StandsIn (pointer.rest source)) :
    (pointer.toCursor source).misread misfit =
      ((pointer.misread source misfit).1, (pointer.misread source misfit).2.toCursor source) := by
  have blamed := counts.toCursor_stepOver (stands.blamed.trans stands.front)
  have place : (pointer.stepOver source misfit.lead).location =
      pointer.location.past misfit.lead := congrArg Cursor.location blamed
  rw [misread, Cursor.misread, ← counts.toCursor_stepOver stands.front]
  dsimp only
  rw [place]
  rfl

/-- A pointer before a token reads what its cursor reads. -/
theorem Counts.token_eq (counts : pointer.Counts source) :
    (pointer.toCursor source).token =
      ((pointer.token source).1, (pointer.token source).2.toCursor source) := by
  cases here : pointer.current with
  | none =>
    have nothing : (pointer.toCursor source).rest = [] := by rw [toCursor, rest, here]
    rw [token, here, Cursor.token, nothing]
    rfl
  | some c =>
    have left : (pointer.toCursor source).rest = c :: source.drop (pointer.position + 1) := by
      rw [toCursor, rest, here]
    rw [token, here, Cursor.token, left]
    dsimp only
    cases fronted : Lexeme.front c (source.drop (pointer.position + 1)) with
    | ok lexeme =>
      obtain ⟨last, split, -⟩ := Lexeme.stands_of_front fronted
      have front : lexeme.text <+: pointer.rest source := ⟨last, split.symm.trans left.symm⟩
      dsimp only
      rw [← counts.toCursor_stepOver front]
      rfl
    | error misfit =>
      have stands : misfit.StandsIn (pointer.toCursor source).rest := by
        rw [left]
        exact Lexeme.standsIn_of_front fronted
      exact counts.misread_eq stands

/-- A pointer reads what its cursor reads, and they stop at the same place. -/
theorem Counts.next_eq (counts : pointer.Counts source) :
    (pointer.toCursor source).next =
      ((pointer.next source).1, (pointer.next source).2.toCursor source) := by
  rw [Pointer.next, Cursor.next, show (pointer.toCursor source).rest = pointer.rest source from rfl]
  cases found : Trivia.skip (pointer.rest source) with
  | ok skipped =>
    dsimp only
    rw [← counts.toCursor_stepOver (Trivia.prefix_of_skip found)]
    exact (counts.stepOver skipped).token_eq
  | error misfit => exact counts.misread_eq (Trivia.standsIn_of_skipWithin found)

/-- A pointer reads the tokens that its cursor reads, and they stop at the same place. -/
theorem Counts.tokens_eq (counts : pointer.Counts source) :
    (pointer.toCursor source).tokens =
      ((pointer.tokens source).1, (pointer.tokens source).2.toCursor source) :=
  drain_map (fun _ good => ⟨good.next, good.next_eq⟩) counts

end Pointer

end Cpplet

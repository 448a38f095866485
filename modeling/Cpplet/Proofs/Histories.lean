import Cpplet.Reader
import Cpplet.Proofs.Pointers

/-!
# Readers keep count

Whatever a reader was told to do, and whether its readings failed or not, the four fields of its
cursor agree with each other and with the source (`Pointer.Counts`). Going back to a kept place is
no exception, since every kept place was reached in the same way. Reading a token never goes back,
and a reader that has found the end of the file stays there until it is told to go back.
-/

namespace Cpplet

namespace Reader

/-- The reader after some commands. -/
def run (reader : Reader) (commands : List Command) : Reader :=
  commands.foldl (fun reader command => (reader.obey command).2) reader

/-- Whether the cursor of a reader and all kept places count as the source has it. -/
structure Counts (reader : Reader) : Prop where
  /-- The cursor does. -/
  cursor : reader.cursor.Counts reader.source
  /-- So does every kept place. -/
  kept : ∀ place ∈ reader.kept, place.Counts reader.source

variable {reader : Reader}

/-- Reading a token moves the cursor. -/
theorem obey_next (reader : Reader) :
    reader.obey .next =
      (.token (reader.cursor.next reader.source).1,
        { reader with cursor := (reader.cursor.next reader.source).2 }) := rfl

/-- Reading all tokens moves the cursor. -/
theorem obey_tokens (reader : Reader) :
    reader.obey .tokens =
      (.tokens (reader.cursor.tokens reader.source).1,
        { reader with cursor := (reader.cursor.tokens reader.source).2 }) := rfl

/-- The source stays as it is. -/
@[simp]
theorem source_obey (reader : Reader) (command : Command) :
    (reader.obey command).2.source = reader.source := by
  cases command with
  | goBack number =>
    unfold obey
    dsimp only
    split <;> rfl
  | _ => rfl

/-- The source stays as it is, whatever is done. -/
@[simp]
theorem source_run (reader : Reader) (commands : List Command) :
    (reader.run commands).source = reader.source := by
  induction commands generalizing reader with
  | nil => rfl
  | cons command commands ih => exact (ih (reader.obey command).2).trans (source_obey _ _)

/-- Every command keeps count. -/
theorem Counts.obey (counts : reader.Counts) (command : Command) :
    (reader.obey command).2.Counts := by
  cases command with
  | next => exact ⟨counts.cursor.next, counts.kept⟩
  | tokens => exact ⟨counts.cursor.tokens, counts.kept⟩
  | keep =>
    refine ⟨counts.cursor, List.forall_mem_append.mpr ⟨counts.kept, ?_⟩⟩
    exact List.forall_mem_singleton.mpr counts.cursor
  | goBack number =>
    unfold Reader.obey
    dsimp only
    split
    · rename_i place found
      exact ⟨counts.kept place (List.mem_of_getElem? found), counts.kept⟩
    · exact counts

/-- Commands keep count. -/
theorem Counts.run (counts : reader.Counts) (commands : List Command) :
    (reader.run commands).Counts := by
  induction commands generalizing reader with
  | nil => exact counts
  | cons command commands ih => exact ih (counts.obey command)

/-- A reader at the front of a source counts as it should. -/
theorem counts_ofSource (source : String) : (ofSource source).Counts :=
  ⟨Pointer.counts_start source.toList, List.forall_mem_nil _⟩

/-- Told to read all tokens, a reader at the front of a source answers with all its tokens. -/
theorem obey_tokens_ofSource (source : String) :
    ((ofSource source).obey .tokens).1 = .tokens (tokenize source) := by
  have read := (counts_ofSource source).cursor.tokens_eq
  rw [ofSource, Pointer.toCursor_start] at read
  rw [tokenize, read]
  rfl

/-- The end of the file, where an answer says that it has been found. -/
def Answer.final? : Answer → Option Token
  | .token (.ok found) => if found.kind = .eof then some found else none
  | .tokens (.ok found) => found.getLast?
  | _ => none

/-- Whether a reader is at the end of the file and stays there when it reads. -/
def EndsAt (reader : Reader) (token : Token) : Prop :=
  token.kind = .eof ∧ reader.cursor.next reader.source = (.ok token, reader.cursor)

/-- A reader whose answer says that the end of the file has been found is there. -/
theorem Counts.endsAt_of_final? (counts : reader.Counts) {command : Command} {token : Token}
    (found : (reader.obey command).1.final? = some token) :
    (reader.obey command).2.EndsAt token := by
  cases command with
  | next =>
    rw [obey_next] at found ⊢
    rcases result : reader.cursor.next reader.source with ⟨error | read, stop⟩
    · rw [result] at found
      cases found
    · rw [result] at found
      simp only [Answer.final?] at found
      split at found
      · rename_i final
        cases found
        exact ⟨final, Pointer.next_of_eof result final⟩
      · cases found
  | tokens =>
    rw [obey_tokens] at found ⊢
    rcases result : reader.cursor.tokens reader.source with ⟨error | tokens, stop⟩
    · rw [result] at found
      cases found
    · rw [result] at found
      have same : tokens.getLast? = some token := found
      have enough : reader.source.length - reader.cursor.position ≤
          (reader.cursor.rest reader.source).length := by
        rw [counts.cursor.rest_eq, List.length_drop]
      obtain ⟨last, ends, final, again⟩ := counts.cursor.next_of_drain enough result
      rw [ends] at same
      cases same
      exact ⟨final, again⟩
  | keep => cases found
  | goBack number =>
    unfold Reader.obey at found
    dsimp only at found
    split at found
    · cases found
    · cases found

/-- At the end of the file only going back moves a reader. -/
theorem EndsAt.obey {token : Token} (ends : reader.EndsAt token) {command : Command}
    (stays : ∀ number, command ≠ .goBack number) : (reader.obey command).2.EndsAt token := by
  obtain ⟨final, again⟩ := ends
  cases command with
  | next =>
    have same : (reader.obey .next).2 = reader := by rw [obey_next, again]
    rw [same]
    exact ⟨final, again⟩
  | tokens =>
    have all : reader.cursor.tokens reader.source = (.ok [token], reader.cursor) := by
      unfold Pointer.tokens drain
      simp only [again, final, ↓reduceIte]
    have same : (reader.obey .tokens).2 = reader := by rw [obey_tokens, all]
    rw [same]
    exact ⟨final, again⟩
  | keep => exact ⟨final, again⟩
  | goBack number => exact absurd rfl (stays number)

/-- At the end of the file a reader stays until it goes back. -/
theorem EndsAt.run {token : Token} (ends : reader.EndsAt token) {commands : List Command}
    (stays : ∀ number, .goBack number ∉ commands) : (reader.run commands).EndsAt token := by
  induction commands generalizing reader with
  | nil => exact ends
  | cons command commands ih =>
    have here : ∀ number, command ≠ .goBack number := by
      rintro number rfl
      exact stays number List.mem_cons_self
    exact ih (ends.obey here) fun number later => stays number (List.mem_cons_of_mem _ later)

end Reader

open Reader in
/-- Readers keep count. After any commands the position, the line, the column and the character of
the cursor agree with each other and with the source. Reading a token then moves the position no
further back, and forward if the token is not the end of the file. Once the end of the file has
been found, reading a token finds the same again and moves nothing, whatever else is done, until
the reader is told to go back. -/
theorem reader_keeps_count (source : String) (commands : List Command) {reader : Reader}
    (reached : (ofSource source).run commands = reader) :
    reader.cursor.Counts source.toList ∧
    (∀ answer after, reader.obey .next = (answer, after) →
      reader.cursor.position ≤ after.cursor.position ∧
      ∀ token, answer = .token (.ok token) → token.kind ≠ .eof →
        reader.cursor.position < after.cursor.position) ∧
    ∀ command token, (reader.obey command).1.final? = some token →
      ∀ later : List Command, (∀ number, .goBack number ∉ later) →
        ((reader.obey command).2.run later).obey .next =
          (.token (.ok token), (reader.obey command).2.run later) := by
  have counts : reader.Counts := reached ▸ (counts_ofSource source).run commands
  have same : reader.source = source.toList := reached ▸ source_run (ofSource source) commands
  refine ⟨same ▸ counts.cursor, ?_, ?_⟩
  · intro answer after obeyed
    cases obeyed
    refine ⟨Pointer.position_le_next _ _, fun token found inner => ?_⟩
    have read : reader.cursor.next reader.source =
        (.ok token, (reader.cursor.next reader.source).2) :=
      Prod.ext (Answer.token.inj found) rfl
    rcases Pointer.next_cases read with ⟨-, rfl⟩ | ⟨-, forward⟩
    · exact absurd rfl inner
    · exact forward
  · intro command token found later stays
    obtain ⟨-, again⟩ := (counts.endsAt_of_final? found).run stays
    rw [obey_next, again]

open Reader in
/-- In the source that is a letter, a line feed, a quote and a letter, after a token, a place kept,
a failure, going back there and the same failure again: all four characters are passed, two of
them in the second line, no character is left there, and then the end of the file is found again
and again. -/
theorem reader_keeps_count_goBack :
    ∃ reader, (ofSource "a\n'b").run [.next, .keep, .next, .goBack 0, .next] = reader ∧
      reader.cursor.Counts "a\n'b".toList ∧ reader.cursor = ⟨4, 2, 3, none⟩ ∧
      (((reader.obey .next).2.run [.keep, .tokens]).obey .next).1 =
        .token (.ok (.eof ⟨2, 3⟩)) := by
  obtain ⟨reader, reached, place, final⟩ :
      ∃ reader, (ofSource "a\n'b").run [.next, .keep, .next, .goBack 0, .next] = reader ∧
        reader.cursor = ⟨4, 2, 3, none⟩ ∧
        (reader.obey .next).1.final? = some (.eof ⟨2, 3⟩) :=
    ⟨_, rfl, by decide +kernel, by decide +kernel⟩
  obtain ⟨counts, -, sticks⟩ := reader_keeps_count "a\n'b" _ reached
  have again := sticks .next _ final [.keep, .tokens] (by simp)
  exact ⟨reader, reached, counts, place, congrArg Prod.fst again⟩

end Cpplet

import Cpplet.Proofs.Languages
import Cpplet.Proofs.Scanning

/-!
# Cursors stay in their source

A cursor that began at the front of a source stands where the characters before it lead to
(`Cursor.StandsIn`). Every reading keeps this, whether it gives a token or fails: what it passes
stands in the source, and so does the place that a failure blames, which is never behind the
place where reading stopped. So every token and every lexical error of a feed has a place in its
source.
-/

namespace Cpplet

/-! ## Misfits -/

/-- Whether the characters that a misfit speaks of stand at the front of a text. -/
structure Misfit.StandsIn (misfit : Misfit) (input : List Char) : Prop where
  /-- The place that is blamed is not behind the place where reading stopped. -/
  blamed : misfit.lead <+: misfit.read
  /-- What was read begins the text. -/
  front : misfit.read <+: input

/-- A misfit behind a text stands in the whole. -/
theorem Misfit.StandsIn.behind {misfit : Misfit} {input : List Char}
    (stands : misfit.StandsIn input) (text : List Char) :
    Misfit.StandsIn ⟨misfit.flaw, text ++ misfit.lead, text ++ misfit.read⟩ (text ++ input) where
  blamed := (List.prefix_append_right_inj text).mpr stands.blamed
  front := (List.prefix_append_right_inj text).mpr stands.front

namespace Lexeme

/-- A number that is no constant stands in its text. -/
theorem standsIn_of_number {input : List Char} {misfit : Misfit}
    (failed : number input = .error misfit) : misfit.StandsIn input := by
  obtain ⟨behind, split, -, -⟩ := Numeral.proper_of input
  have front : (Numeral.of input).text <+: input := ⟨behind, split.symm⟩
  unfold number at failed
  simp only at failed
  split at failed
  · cases failed
    exact ⟨List.nil_prefix, front⟩
  · split at failed
    · split at failed
      · contradiction
      · cases failed
        have rest : input.drop (Numeral.of input).text.length = behind :=
          List.append_cancel_left ((eq_append_drop front).symm.trans split)
        have suffix := filter_take_one_begins isFloatSuffix behind
        rw [← List.prefix_append_right_inj, ← split] at suffix
        rw [rest]
        exact ⟨List.nil_prefix, suffix⟩
    · split at failed
      · contradiction
      · cases failed
        exact ⟨List.nil_prefix, front⟩

/-- A string constant that does not close stands in its text, behind the opening quote. -/
theorem standsIn_of_string {input : List Char} {misfit : Misfit}
    (failed : string input = .error misfit) : misfit.StandsIn ('"' :: input) := by
  obtain ⟨-, front⟩ := Run.spells_of input
  have split := eq_append_drop front
  have lead : '"' :: (Run.of input).text <+: '"' :: input := List.cons_prefix_cons.mpr ⟨rfl, front⟩
  -- A backslash that is no escape has been passed, and it stands right behind the run.
  have escape (rest : List Char) (next : input.drop (Run.of input).text.length = '\\' :: rest) :
      '"' :: (Run.of input).text ++ ['\\'] <+: '"' :: input := by
    rw [next] at split
    exact ⟨rest, by simpa using congrArg ('"' :: ·) split.symm⟩
  unfold string at failed
  simp only at failed
  split at failed
  · contradiction
  · rename_i letter rest next
    cases failed
    exact ⟨List.prefix_append _ _, escape _ next⟩
  · rename_i next
    cases failed
    exact ⟨List.prefix_append _ _, escape _ next⟩
  · cases failed
    exact ⟨List.nil_prefix, lead⟩

/-- A character constant that goes on stands in its text. -/
theorem standsIn_of_closeChar {written rest : List Char} {c : Char} {misfit : Misfit}
    (failed : closeChar written c rest = .error misfit) : misfit.StandsIn (written ++ rest) := by
  unfold closeChar at failed
  split at failed
  · contradiction
  · cases failed
    exact ⟨List.prefix_rfl, List.prefix_append _ _⟩

/-- A character constant that is none stands in its text, behind the opening quote. -/
theorem standsIn_of_char {input : List Char} {misfit : Misfit}
    (failed : char input = .error misfit) : misfit.StandsIn ('\'' :: input) := by
  have opening : ['\''] <+: '\'' :: input := List.prefix_append ['\''] input
  unfold char at failed
  split at failed
  · cases failed
    exact ⟨List.nil_prefix, opening⟩
  · cases failed
    exact ⟨List.nil_prefix, opening⟩
  · cases failed
    exact ⟨List.nil_prefix, opening⟩
  · cases failed
    exact ⟨List.prefix_append ['\''] ['\\'], List.prefix_rfl⟩
  · split at failed
    · exact standsIn_of_closeChar failed
    · cases failed
      exact ⟨List.prefix_append ['\''] ['\\'], List.prefix_append ['\'', '\\'] _⟩
  · exact standsIn_of_closeChar failed

/-- Characters that are no token stand in their text. -/
theorem standsIn_of_front {c : Char} {rest : List Char} {misfit : Misfit}
    (failed : front c rest = .error misfit) : misfit.StandsIn (c :: rest) := by
  unfold front at failed
  split at failed
  · contradiction
  · split at failed
    · exact standsIn_of_number failed
    · split at failed
      · rename_i double
        subst double
        exact standsIn_of_string failed
      · split at failed
        · rename_i single
          subst single
          exact standsIn_of_char failed
        · unfold mark at failed
          split at failed
          · contradiction
          · cases failed
            exact ⟨List.prefix_rfl, List.nil_prefix⟩

end Lexeme

namespace Trivia

/-- What is skipped begins the text. -/
theorem prefix_of_skip {input gap : List Char} (skipped : skip input = .ok gap) :
    gap <+: input := by
  obtain ⟨behind, split, -, -⟩ := separates_of_skipWithin (Nat.le_refl _) skipped
  exact ⟨behind, split.symm⟩

/-- Behind what is skipped there is nothing more to skip. -/
theorem skip_behind {input gap : List Char} (skipped : skip input = .ok gap) :
    skip (input.drop gap.length) = .ok [] := by
  obtain ⟨behind, rfl, -, plain⟩ := separates_of_skipWithin (Nat.le_refl _) skipped
  rw [List.drop_left]
  exact skipWithin_of_separates (Nat.zero_le _) .nil plain

/-- A comment without end stands in its text. -/
theorem standsIn_of_skipWithin {rounds input : List Char} {misfit : Misfit}
    (failed : skipWithin rounds input = .error misfit) : misfit.StandsIn input := by
  induction rounds generalizing input misfit with
  | nil =>
    unfold skipWithin at failed
    split at failed
    · contradiction
    · cases failed
      exact ⟨List.nil_prefix, List.prefix_rfl⟩
    · contradiction
  | cons round rounds ih =>
    unfold skipWithin at failed
    split at failed
    · contradiction
    · cases failed
      exact ⟨List.nil_prefix, List.prefix_rfl⟩
    · rename_i text found
      obtain ⟨-, rest, rfl, -⟩ := Piece.skipped_of found
      rw [List.drop_left] at failed
      cases skipped : skipWithin rounds rest with
      | ok more => simp [skipped] at failed
      | error inner =>
        simp only [skipped, Except.error.injEq] at failed
        subst failed
        exact (ih skipped).behind text

end Trivia

/-! ## Cursors -/

/-- Whether a place is one that some first characters of a source lead to. -/
def Location.StandsIn (source : List Char) (place : Location) : Prop :=
  ∃ before, before <+: source ∧ place = start.past before

namespace Cursor

/-- Whether a cursor stands in a source: what is left is an end of the source, and the place is
the one that the characters before it lead to. -/
def StandsIn (source : List Char) (cursor : Cursor) : Prop :=
  ∃ before, source = before ++ cursor.rest ∧ cursor.location = Location.start.past before

variable {source : List Char} {cursor : Cursor}

/-- The front of a source stands in it. -/
theorem standsIn_ofSource (source : String) : (ofSource source).StandsIn source.toList :=
  ⟨[], rfl, rfl⟩

/-- A cursor behind a text that stands at another stands in the source. -/
theorem StandsIn.past (stands : cursor.StandsIn source) {text : List Char}
    (front : text <+: cursor.rest) : (cursor.past text).StandsIn source := by
  obtain ⟨before, split, place⟩ := stands
  have rest := eq_append_drop front
  refine ⟨before ++ text, ?_, ?_⟩
  · rw [List.append_assoc, split]
    exact congrArg (before ++ ·) rest
  · rw [Location.past_append, ← place]
    rfl

/-- The place of a cursor stands in the source. -/
theorem StandsIn.location (stands : cursor.StandsIn source) :
    cursor.location.StandsIn source := by
  obtain ⟨before, split, place⟩ := stands
  exact ⟨before, ⟨cursor.rest, split.symm⟩, place⟩

/-- A misfit at a cursor blames a place of the source and stops at one. -/
theorem StandsIn.misread (stands : cursor.StandsIn source) {misfit : Misfit}
    (inside : misfit.StandsIn cursor.rest) {error : LexicalError} {stop : Cursor}
    (read : cursor.misread misfit = (.error error, stop)) :
    error.location.StandsIn source ∧ stop.StandsIn source := by
  have blamed : (cursor.past misfit.lead).StandsIn source :=
    stands.past (inside.blamed.trans inside.front)
  cases read
  exact ⟨blamed.location, stands.past inside.front⟩

/-- A failed reading blames a place of the source and stops at one. -/
theorem StandsIn.next_error (stands : cursor.StandsIn source) {error : LexicalError}
    {stop : Cursor} (read : cursor.next = (.error error, stop)) :
    error.location.StandsIn source ∧ stop.StandsIn source := by
  unfold next at read
  split at read
  · rename_i gap skipped
    have here := stands.past (Trivia.prefix_of_skip skipped)
    unfold token at read
    split at read
    · cases read
    · rename_i c rest left
      split at read
      · cases read
      · rename_i misfit failed
        refine here.misread ?_ read
        rw [left]
        exact Lexeme.standsIn_of_front failed
  · rename_i misfit failed
    exact stands.misread (Trivia.standsIn_of_skipWithin failed) read

/-- A token is read again from the place where it stands, and reading it stops in the source. -/
theorem StandsIn.next_ok (stands : cursor.StandsIn source) {token : Token} {behind : Cursor}
    (read : cursor.next = (.ok token, behind)) :
    behind.StandsIn source ∧
      ∃ here : Cursor, here.StandsIn source ∧ here.location = token.location ∧
        here.next = (.ok token, behind) := by
  unfold next at read
  split at read
  · rename_i gap skipped
    have here := stands.past (Trivia.prefix_of_skip skipped)
    have again : (cursor.past gap).next = (.ok token, behind) := by
      rw [next, show Trivia.skip (cursor.past gap).rest = .ok [] from Trivia.skip_behind skipped]
      exact read
    refine ⟨?_, cursor.past gap, here, ?_, again⟩
    · unfold Cursor.token at read
      split at read
      · cases read
        exact here
      · rename_i c rest left
        split at read
        · rename_i lexeme found
          obtain ⟨last, split, -⟩ := Lexeme.stands_of_front found
          cases read
          refine here.past ?_
          rw [left]
          exact ⟨last, split.symm⟩
        · cases read
    · rcases token_ok read with ⟨-, rfl, -⟩ | ⟨-, -, -, place, -⟩
      · rfl
      · exact place.symm
  · cases read

end Cursor

/-! ## Feeds -/

namespace Feeds

variable {source : List Char} {cursor : Cursor}

/-- The error of a feed that cannot be begun blames a place of the source. -/
theorem error_standsIn {fault : Fault} (feeds : Feeds cursor (.error fault))
    (stands : cursor.StandsIn source) : fault.error.location.StandsIn source := by
  cases feeds with
  | fault read => exact (stands.next_error read).1

/-- A feed is fed again from the place where its lookahead stands. -/
theorem at_current {feed : Feed} (feeds : Feeds cursor (.ok feed))
    (stands : cursor.StandsIn source) :
    ∃ here : Cursor, here.StandsIn source ∧ here.location = feed.current.location ∧
      Feeds here (.ok feed) := by
  cases feeds with
  | eof read final =>
    obtain ⟨-, here, inside, place, again⟩ := stands.next_ok read
    exact ⟨here, inside, place, .eof again final⟩
  | last read inner rest =>
    obtain ⟨-, here, inside, place, again⟩ := stands.next_ok read
    exact ⟨here, inside, place, .last again inner rest⟩
  | more read inner rest =>
    obtain ⟨-, here, inside, place, again⟩ := stands.next_ok read
    exact ⟨here, inside, place, .more again inner rest⟩

/-- What is left of a feed behind some of its tokens is fed from a place of the source. -/
theorem behind {tokens : List Token} {stop : Feed} (feeds : Feeds cursor (.ok (tokens ++ stop)))
    (stands : cursor.StandsIn source) :
    ∃ here : Cursor, here.StandsIn source ∧ Feeds here (.ok stop) := by
  induction tokens generalizing cursor with
  | nil => exact ⟨cursor, stands, feeds⟩
  | cons token tokens ih =>
    rw [Feed.cons_append] at feeds
    cases feeds with
    | more read inner rest => exact ih rest (stands.next_ok read).1

/-- An error that stands where a parser stopped blames a place of the source. -/
theorem bears_standsIn {stop : Feed} {error : SourceError} (feeds : Feeds cursor (.ok stop))
    (stands : cursor.StandsIn source) (bears : stop.Bears error) :
    error.location.StandsIn source := by
  cases error with
  | grammatical error =>
    obtain ⟨here, inside, place, -⟩ := feeds.at_current stands
    have same : error.location = stop.current.location := bears
    rw [SourceError.location, same, ← place]
    exact inside.location
  | lexical error =>
    obtain ⟨token, fault, rfl, rfl⟩ := bears
    cases feeds with
    | last read inner rest => exact rest.error_standsIn (stands.next_ok read).1

end Feeds

end Cpplet

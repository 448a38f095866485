import Cpplet.Location
import Cpplet.Text.Lines

/-!
# Lines and places

A place counts line feeds, while the lines of a text lose what ends them: a line feed with or
without a carriage return before it. Both agree on where a character stands. The line with the
number of a place is the one that holds it (`Text.LineAt`), and the column counts from the front
of that line, so that a character that ends no line is found in its line at its column.
-/

namespace Cpplet

/-- Within a line only the column moves. -/
theorem Location.past_inline {text : List Char} (inline : '\n' ∉ text) (place : Location) :
    place.past text = ⟨place.line, place.column + text.length⟩ := by
  induction text generalizing place with
  | nil => rfl
  | cons c text ih =>
    simp only [List.mem_cons, not_or] at inline
    have step : place.after c = ⟨place.line, place.column + 1⟩ := if_neg (Ne.symm inline.1)
    rw [past_cons, step, ih inline.2, List.length_cons, Nat.add_assoc, Nat.add_comm 1]

namespace Text

/-- What stands between a line and the later ones: a line feed, with the carriage return before
it if there is one, or nothing at the end of the text. -/
inductive Ends (line : List Char) : List Char → List Char → Prop where
  /-- A line feed behind anything but a carriage return. -/
  | feed {later : List Char} (bare : line.getLast? ≠ some '\r') : Ends line ['\n'] later
  /-- A carriage return and a line feed. -/
  | returnFeed {later : List Char} : Ends line ['\r', '\n'] later
  /-- The end of the text. -/
  | last : Ends line [] []

/-- A line of a text that holds an offset: the offset is in the line or in what ends it, or it is
the end of the text and nothing ends the line. -/
structure LineAt (text : List Char) (offset : Nat) (earlier line ending later : List Char) :
    Prop where
  /-- The line stands between earlier ones and later ones. -/
  split : text = earlier ++ (line ++ (ending ++ later))
  /-- Earlier ones have ended. -/
  begins : earlier = [] ∨ earlier.getLast? = some '\n'
  /-- The line itself goes on to what ends it. -/
  inline : '\n' ∉ line
  /-- What ends the line. -/
  ends : Ends line ending later
  /-- The offset is not before the line. -/
  notBefore : earlier.length ≤ offset
  /-- The offset is not behind what ends the line. -/
  notBehind : offset < earlier.length + line.length + ending.length ∨ ending = []

/-! ## The first line -/

/-- A character that ends no line joins the first line. -/
theorem lines_cons {c : Char} {rest : List Char} (other : c ≠ '\n')
    (single : c = '\r' → rest.head? ≠ some '\n') :
    lines (c :: rest) = addToFirst c (lines rest) := by
  rw [lines]
  · exact other
  · rintro later rfl rfl
    exact single rfl rfl

/-- What ends a line ends the line without its first character. -/
theorem Ends.tail {c : Char} {line ending later : List Char}
    (ends : Ends (c :: line) ending later) : Ends line ending later := by
  cases ends with
  | feed bare =>
    refine .feed fun final => bare ?_
    rw [List.getLast?_cons, final]
    rfl
  | returnFeed => exact .returnFeed
  | last => exact .last

/-- A carriage return inside a line has no line feed behind it. -/
theorem Ends.single {c : Char} {line ending later : List Char} (inline : '\n' ∉ line)
    (ends : Ends (c :: line) ending later) (isReturn : c = '\r') :
    (line ++ (ending ++ later)).head? ≠ some '\n' := by
  cases line with
  | cons next line =>
    intro feed
    cases feed
    exact inline List.mem_cons_self
  | nil =>
    cases ends with
    | feed bare => exact absurd (congrArg some isReturn) bare
    | returnFeed => simp
    | last => simp

/-- A line with what ends it stands in front of the other lines. -/
theorem lines_ended {line ending later : List Char} (inline : '\n' ∉ line)
    (ends : Ends line ending later) (ended : ending ≠ []) :
    lines (line ++ (ending ++ later)) = line :: lines later := by
  induction line with
  | nil =>
    cases ends with
    | feed bare => rfl
    | returnFeed => rfl
    | last => exact absurd rfl ended
  | cons c line ih =>
    simp only [List.mem_cons, not_or] at inline
    rw [List.cons_append, lines_cons (Ne.symm inline.1) (ends.single inline.2),
      ih inline.2 ends.tail]
    rfl

/-- The lines of a text without line feeds are the text itself, unless there is none. -/
theorem lines_inline {line : List Char} (inline : '\n' ∉ line) :
    (lines line)[0]?.getD [] = line := by
  have whole : lines line = if line = [] then [] else [line] := by
    induction line with
    | nil => rfl
    | cons c line ih =>
      simp only [List.mem_cons, not_or] at inline
      have ends : Ends (c :: line) [] [] := .last
      have single := ends.single inline.2
      rw [List.append_nil, List.append_nil] at single
      rw [lines_cons (Ne.symm inline.1) single, ih inline.2]
      cases line <;> rfl
  rw [whole]
  cases line <;> rfl

/-- A line, whatever ends it, is the first of the lines. -/
theorem Ends.first {line ending later : List Char} (inline : '\n' ∉ line)
    (ends : Ends line ending later) :
    (lines (line ++ (ending ++ later)))[0]?.getD [] = line := by
  by_cases ended : ending = []
  · cases ends with
    | feed bare => cases ended
    | returnFeed => cases ended
    | last =>
      rw [List.append_nil, List.append_nil]
      exact lines_inline inline
  · rw [lines_ended inline ends ended]
    rfl

/-- Every text begins with a line and what ends it. -/
theorem exists_ends (text : List Char) :
    ∃ line ending later, text = line ++ (ending ++ later) ∧ '\n' ∉ line ∧
      Ends line ending later := by
  by_cases feed : '\n' ∈ text
  · obtain ⟨body, later, rfl, inline⟩ := List.eq_append_cons_of_mem feed
    by_cases returns : body.getLast? = some '\r'
    · obtain ⟨line, rfl⟩ := List.getLast?_eq_some_iff.mp returns
      refine ⟨line, ['\r', '\n'], later, by simp, fun member => inline ?_, .returnFeed⟩
      exact List.mem_append_left _ member
    · exact ⟨body, ['\n'], later, by simp, inline, .feed returns⟩
  · exact ⟨text, [], [], by simp, feed, .last⟩

/-- No line holds a line feed. -/
theorem inline_of_mem_lines {text line : List Char} (member : line ∈ lines text) :
    '\n' ∉ line := by
  fun_induction lines text generalizing line with
  | case1 => cases member
  | case2 rest ih =>
    rcases List.mem_cons.mp member with rfl | later
    · exact List.not_mem_nil
    · exact ih later
  | case3 rest ih =>
    rcases List.mem_cons.mp member with rfl | later
    · exact List.not_mem_nil
    · exact ih later
  | case4 c rest other single ih =>
    have visible : '\n' ≠ c := Ne.symm other
    cases found : lines rest with
    | nil =>
      rw [found] at member
      obtain rfl := List.mem_singleton.mp member
      simpa using visible
    | cons first others =>
      rw [found] at member ih
      rcases List.mem_cons.mp member with rfl | later
      · have inline : '\n' ∉ first := ih List.mem_cons_self
        simp [visible, inline]
      · exact ih (List.mem_cons_of_mem _ later)

/-! ## The line of a place -/

/-- What ends a line leads to the front of the next line. -/
theorem Ends.past {line ending later : List Char} (inline : '\n' ∉ line)
    (ends : Ends line ending later) (ended : ending ≠ []) (place : Location) :
    place.past (line ++ ending) = ⟨place.line + 1, 1⟩ := by
  rw [Location.past_append, Location.past_inline inline]
  cases ends with
  | feed bare => rfl
  | returnFeed => rfl
  | last => exact absurd rfl ended

/-- What ends a line ends with a line feed. -/
theorem Ends.getLast? {line ending later : List Char} (ends : Ends line ending later)
    (ended : ending ≠ []) (front : List Char) : (front ++ ending).getLast? = some '\n' := by
  cases ends with
  | feed bare => simp
  | returnFeed => simp
  | last => exact absurd rfl ended

/-- Before the end of a line there is no line feed. -/
theorem Ends.inline_take {line ending later : List Char} (inline : '\n' ∉ line)
    (ends : Ends line ending later) {offset : Nat}
    (before : offset < line.length + ending.length ∨ ending = []) :
    '\n' ∉ (line ++ (ending ++ later)).take offset := by
  intro feed
  cases ends with
  | feed bare =>
    have few : offset ≤ line.length := Nat.le_of_lt_succ (by simpa using before)
    rw [List.take_append_of_le_length few] at feed
    exact inline (List.mem_of_mem_take feed)
  | returnFeed =>
    have few : offset ≤ (line ++ ['\r']).length := by
      have bound : offset < line.length + 2 := by simpa using before
      simp only [List.length_append, List.length_cons, List.length_nil]
      omega
    have split : line ++ (['\r', '\n'] ++ later) = (line ++ ['\r']) ++ '\n' :: later := by simp
    rw [split, List.take_append_of_le_length few] at feed
    simpa [inline] using List.mem_of_mem_take feed
  | last =>
    rw [List.append_nil, List.append_nil] at feed
    exact inline (List.mem_of_mem_take feed)

/-- A line of what stands behind the first line is a line of the whole. -/
theorem LineAt.behind {first ended text earlier line ending later : List Char} {offset : Nat}
    (ends : Ends first ended text) (some : ended ≠ [])
    (holds : LineAt text offset earlier line ending later) :
    LineAt (first ++ (ended ++ text)) ((first ++ ended).length + offset)
      (first ++ ended ++ earlier) line ending later where
  split := by
    have split := holds.split
    simpa using split
  begins := by
    right
    rcases holds.begins with none | final
    · rw [none, List.append_nil]
      exact ends.getLast? some first
    · rw [List.getLast?_append, final]
      rfl
  inline := holds.inline
  ends := holds.ends
  notBefore := by
    rw [List.length_append]
    exact Nat.add_le_add_left holds.notBefore _
  notBehind := by
    rcases holds.notBehind with before | last
    · left
      simp only [List.length_append]
      omega
    · exact .inr last

/-- Every offset of a text is in a line. The place there, counted from the front of any line on,
has the number of this line and a column that counts from its front. -/
theorem exists_lineAt_from (number : Nat) {text : List Char} {offset : Nat}
    (inside : offset ≤ text.length) :
    ∃ index earlier line ending later, LineAt text offset earlier line ending later ∧
      (lines text)[index]?.getD [] = line ∧
      (Location.mk number 1).past (text.take offset) =
        ⟨number + index, offset - earlier.length + 1⟩ := by
  -- The text behind the first line is shorter, and its lines are counted one further.
  induction size : text.length using Nat.strongRecOn generalizing number text offset with
  | ind size ih =>
    subst size
    obtain ⟨line, ending, later, rfl, inline, ends⟩ := exists_ends text
    by_cases here : offset < line.length + ending.length ∨ ending = []
    · refine ⟨0, [], line, ending, later, ?_, ?_, ?_⟩
      · exact ⟨rfl, .inl rfl, inline, ends, Nat.zero_le _, by simpa using here⟩
      · exact ends.first inline
      · have length : ((line ++ (ending ++ later)).take offset).length = offset := by
          rw [List.length_take, Nat.min_eq_left inside]
        rw [Location.past_inline (ends.inline_take inline here), length, List.length_nil,
          Nat.sub_zero, Nat.add_comm 1]
        rfl
    · obtain ⟨behind, ended⟩ := not_or.mp here
      have positive : 0 < ending.length := List.length_pos_iff.mpr ended
      obtain ⟨rest, rfl⟩ : ∃ rest, offset = (line ++ ending).length + rest := by
        refine ⟨offset - (line ++ ending).length, ?_⟩
        rw [List.length_append]
        omega
      simp only [List.length_append] at inside ih
      obtain ⟨index, earlier, found, last, others, holds, numbered, place⟩ :=
        ih later.length (by omega) (number + 1) (by omega : rest ≤ later.length) rfl
      refine ⟨index + 1, line ++ ending ++ earlier, found, last, others, ?_, ?_, ?_⟩
      · exact holds.behind ends ended
      · rw [lines_ended inline ends ended]
        exact numbered
      · rw [← List.append_assoc, List.take_length_add_append, Location.past_append,
          ends.past inline ended, place]
        simp only [List.length_append, Location.mk.injEq]
        omega

/-- Every offset of a text is in a line, which has the number of the place there, and the column
counts from its front. -/
theorem exists_lineAt {text : List Char} {offset : Nat} (inside : offset ≤ text.length)
    {place : Location} (leads : Location.start.past (text.take offset) = place) :
    ∃ earlier line ending later, LineAt text offset earlier line ending later ∧
      (lines text)[place.line - 1]?.getD [] = line ∧
      place.column = offset - earlier.length + 1 := by
  obtain ⟨index, earlier, line, ending, later, holds, numbered, found⟩ :=
    exists_lineAt_from 1 inside
  obtain rfl : place = ⟨1 + index, offset - earlier.length + 1⟩ := leads.symm.trans found
  refine ⟨earlier, line, ending, later, holds, ?_, rfl⟩
  rw [Nat.add_sub_cancel_left]
  exact numbered

/-- A character before the end of its line is found in the line. -/
theorem LineAt.getElem?_eq {text earlier body ending later : List Char} {offset : Nat}
    (holds : LineAt text offset earlier body ending later)
    (before : offset < earlier.length + body.length) :
    body[offset - earlier.length]? = text[offset]? := by
  have notBefore := holds.notBefore
  rw [holds.split, List.getElem?_append_right notBefore, List.getElem?_append_left (by omega)]

/-- A character that is neither a line feed nor a carriage return is before the end of its
line. -/
theorem LineAt.before_of_getElem? {text earlier body ending later : List Char} {offset : Nat}
    (holds : LineAt text offset earlier body ending later) {c : Char}
    (found : text[offset]? = some c) (noFeed : c ≠ '\n') (noReturn : c ≠ '\r') :
    offset < earlier.length + body.length := by
  apply Nat.lt_of_not_le
  intro behind
  -- Behind the line there are only its ending and the end of the text.
  rw [holds.split, ← List.append_assoc, List.getElem?_append_right (by simpa using behind)] at found
  have notBehind := holds.notBehind
  generalize index : offset - (earlier ++ body).length = position at found
  rw [List.length_append] at index
  cases holds.ends with
  | feed bare =>
    obtain rfl : position = 0 := by
      have bound : offset < earlier.length + body.length + 1 := by simpa using notBehind
      omega
    exact noFeed (Option.some.inj found).symm
  | returnFeed =>
    have bound : offset < earlier.length + body.length + 2 := by simpa using notBehind
    obtain rfl | rfl : position = 0 ∨ position = 1 := by omega
    · exact noReturn (Option.some.inj found).symm
    · exact noFeed (Option.some.inj found).symm
  | last => simp at found

end Text

end Cpplet

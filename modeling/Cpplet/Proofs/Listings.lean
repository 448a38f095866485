import Cpplet.Listing
import Cpplet.Proofs.Wording

/-!
# Listings go line by line

Tokens are put into the group next to them or into a new one, so grouping sees one line at a time
(`group_eq_foldl`: it may as well go from the front, looking at the last group only). That no line
is listed twice rests on the order of the places of tokens, which comments and constants over many
lines do not disturb. That a group is one row rests on the wording of tokens, which holds no line
break.
-/

namespace Cpplet.Listing

open Text (OneLine)

/-! ## Groups -/

/-- Put a token behind groups: into the last if that is of its line, else alone. -/
def push : List Group → Token → List Group
  | [], token => [⟨token.location.line, [token]⟩]
  | [group], token =>
    if group.line = token.location.line then [⟨group.line, group.tokens ++ [token]⟩]
    else [group, ⟨token.location.line, [token]⟩]
  | group :: next :: others, token => group :: push (next :: others) token

/-- A token in front and a token behind can be put to the groups in either order. -/
theorem push_add (first last : Token) (groups : List Group) :
    push (add first groups) last = add first (push groups last) := by
  match groups with
  | [] =>
    by_cases same : first.location.line = last.location.line
    · simp [push, add, same]
    · simp [push, add, same, Ne.symm same]
  | [group] =>
    by_cases before : group.line = first.location.line <;>
      by_cases behind : group.line = last.location.line <;>
        simp_all [push, add]
  | group :: next :: others =>
    by_cases same : group.line = first.location.line <;> simp [push, add, same]

/-- Tokens can be grouped from the front as well, looking at the last group only. -/
theorem group_eq_foldl (tokens : List Token) : group tokens = tokens.foldl push [] := by
  have grown (first : Token) (others : List Token) (groups : List Group) :
      others.foldl push (add first groups) = add first (others.foldl push groups) := by
    induction others generalizing groups with
    | nil => rfl
    | cons next others ih => rw [List.foldl_cons, push_add, ih, List.foldl_cons]
  induction tokens with
  | nil => rfl
  | cons first others ih =>
    rw [List.foldl_cons]
    exact (congrArg (add first) ih).trans (grown first others []).symm

/-- Whether groups are those of lines, one after the other. -/
structure Sorted (groups : List Group) : Prop where
  /-- No group is empty. -/
  some : ∀ group ∈ groups, group.tokens ≠ []
  /-- The tokens of a group begin on its line. -/
  own : ∀ group ∈ groups, ∀ token ∈ group.tokens, token.location.line = group.line
  /-- The lines increase. -/
  increasing : groups.Pairwise fun first second => first.line < second.line

/-- Groups stay sorted when a token is added that begins on no later line. -/
theorem Sorted.add {groups : List Group} (sorted : Sorted groups) {token : Token}
    (before : ∀ group ∈ groups, token.location.line ≤ group.line) :
    Sorted (Listing.add token groups) := by
  have alone : ∀ other ∈ [token], other.location.line = token.location.line := by simp
  cases groups with
  | nil =>
    exact ⟨List.forall_mem_singleton.mpr (List.cons_ne_nil _ _),
      List.forall_mem_singleton.mpr alone, List.pairwise_singleton _ _⟩
  | cons group others =>
    obtain ⟨some, own, increasing⟩ := sorted
    rw [List.forall_mem_cons] at some own before
    rw [List.pairwise_cons] at increasing
    by_cases same : group.line = token.location.line
    · rw [Listing.add, if_pos same]
      refine ⟨?_, ?_, ?_⟩
      · exact List.forall_mem_cons.mpr ⟨List.cons_ne_nil _ _, some.2⟩
      · exact List.forall_mem_cons.mpr ⟨List.forall_mem_cons.mpr ⟨same.symm, own.1⟩, own.2⟩
      · exact List.pairwise_cons.mpr increasing
    · rw [Listing.add, if_neg same]
      have earlier : token.location.line < group.line :=
        Nat.lt_of_le_of_ne before.1 (Ne.symm same)
      refine ⟨?_, ?_, ?_⟩
      · exact List.forall_mem_cons.mpr ⟨List.cons_ne_nil _ _, List.forall_mem_cons.mpr some⟩
      · exact List.forall_mem_cons.mpr ⟨alone, List.forall_mem_cons.mpr own⟩
      · refine List.pairwise_cons.mpr ⟨?_, List.pairwise_cons.mpr increasing⟩
        refine List.forall_mem_cons.mpr ⟨earlier, fun other member => ?_⟩
        exact Nat.lt_trans earlier (increasing.1 other member)

/-- Tokens on lines that never decrease are grouped into sorted groups. -/
theorem sorted_group {tokens : List Token}
    (ordered : tokens.Pairwise fun first second => first.location.line ≤ second.location.line) :
    Sorted (group tokens) := by
  induction tokens with
  | nil => exact ⟨nofun, nofun, .nil⟩
  | cons token others ih =>
    obtain ⟨first, ordered⟩ := List.pairwise_cons.mp ordered
    have sorted := ih ordered
    refine sorted.add fun found member => ?_
    -- The line of a group is that of a token in it, and this is one of the others.
    obtain ⟨inside, mine⟩ := List.exists_mem_of_ne_nil _ (sorted.some found member)
    rw [← sorted.own found member inside mine]
    apply first
    rw [← flatMap_tokens_group others]
    exact List.mem_flatMap.mpr ⟨found, member, mine⟩

/-! ## Rows -/

/-- The row of a group whose tokens are shown without line breaks has none. -/
theorem Group.oneLine_text {group : Group} (keeps : ∀ token ∈ group.tokens, token.KeepsLine) :
    OneLine group.text.toList := by
  have labels : OneLine (", ".toList.intercalate
      ((group.tokens.map Token.label).map String.toList)) := by
    refine OneLine.intercalate (by decide) ?_
    rw [List.map_map]
    exact List.forall_mem_map.mpr fun token member => (keeps token member).oneLine_label
  have number := Decimal.oneLine_natDigits group.line
  simp only [text, String.toList_append, String.toList_intercalate, Decimal.natText,
    String.toList_ofList]
  exact (((OneLine.append (by decide) number).append (by decide)).append labels)

/-- All rows are the texts of the groups, with a line feed behind each. -/
theorem toList_render (groups : List Group) :
    (render groups).toList = groups.flatMap fun group => group.text.toList ++ ['\n'] := by
  rw [render, Outline.asLines, String.toList_join, List.flatMap_map, List.flatMap_map]
  simp

/-- There are as many line feeds as rows, if none is in a row. -/
theorem count_render {groups : List Group} (inline : ∀ group ∈ groups, '\n' ∉ group.text.toList) :
    (render groups).toList.count '\n' = groups.length := by
  rw [toList_render]
  induction groups with
  | nil => rfl
  | cons group others ih =>
    rw [List.forall_mem_cons] at inline
    rw [List.flatMap_cons, List.count_append, List.count_append, List.count_eq_zero.mpr inline.1,
      ih inline.2, List.length_cons, Nat.add_comm]
    rfl

/-- A listing goes line by line. It fails as listing the tokens does, with the same error. If they
can be listed, its groups together are all of them in order; no group is empty, its tokens begin
on its line, and the lines increase. The text has one line feed for each group, behind its row:
neither the rows nor what tokens are called in them hold any line break. -/
theorem listing_goes_line_by_line (source : String) :
    (∀ error, ofSource source = .error error ↔ tokenize source = .error error) ∧
      ∀ tokens, tokenize source = .ok tokens →
        ∃ groups, ofSource source = .ok groups ∧ groups.flatMap Group.tokens = tokens ∧
          Sorted groups ∧
          (render groups).toList = groups.flatMap (fun group => group.text.toList ++ ['\n']) ∧
          (render groups).toList.count '\n' = groups.length ∧
          (∀ group ∈ groups, OneLine group.text.toList) ∧
          ∀ token ∈ tokens, OneLine token.label.toList := by
  constructor
  · intro error
    unfold ofSource
    cases tokenize source with
    | ok tokens => simp
    | error found => simp
  · intro tokens listed
    have scanned := tokenize_eq_ok_iff.mp listed
    have keeps := scanned.keepsLine
    have kept : (group tokens).flatMap Group.tokens = tokens := flatMap_tokens_group tokens
    have rows : ∀ found ∈ group tokens, OneLine found.text.toList := by
      intro found member
      apply Group.oneLine_text
      intro token inside
      apply keeps
      rw [← kept]
      exact List.mem_flatMap.mpr ⟨found, member, inside⟩
    have sorted : Sorted (group tokens) := by
      apply sorted_group
      refine scanned.ordered.imp fun before => ?_
      rcases before with above | ⟨same, -⟩
      · exact Nat.le_of_lt above
      · exact Nat.le_of_eq same
    refine ⟨group tokens, ?_, kept, sorted, toList_render _, ?_, rows, ?_⟩
    · rw [ofSource, listed]
    · exact count_render fun found member => (rows found member).inline
    · exact fun token member => (keeps token member).oneLine_label

/-- A comment over two lines parts the tokens of the first line from that of the second, whose
string constant holds a line feed. -/
theorem listing_goes_line_by_line_comment :
    ∃ groups, ofSource "x;/*\n*/\"\\n\"" = .ok groups ∧ Sorted groups ∧
      groups.map Group.line = [1, 2] ∧ (render groups).toList.count '\n' = 2 := by
  obtain ⟨tokens, listed, lines⟩ : ∃ tokens, tokenize "x;/*\n*/\"\\n\"" = .ok tokens ∧
      (group tokens).map Group.line = [1, 2] := ⟨_, by cbv, by cbv⟩
  obtain ⟨groups, grouped, -, sorted, -, count, -, -⟩ :=
    (listing_goes_line_by_line "x;/*\n*/\"\\n\"").2 tokens listed
  obtain rfl : group tokens = groups := by
    rw [ofSource, listed] at grouped
    exact Except.ok.inj grouped
  have two : (group tokens).length = 2 := by simpa using congrArg List.length lines
  exact ⟨_, grouped, sorted, lines, count.trans two⟩

end Cpplet.Listing

import Mathlib.Data.List.Chain
import Cpplet.Outline.Program

/-!
# What the rows of an outline tell

A flattened outline keeps for each node only its depth, its label and its place. Depths go down by
at most one level from a row to the next, and below the first row no depth is that of the first
(`le_depth_rowsOfAll`, `isChain_rowsOfAll`). Because of this the rows tell which node stands below
which: outlines whose rows agree in depth and label are the same up to their places
(`unplaced_of_rows`).
-/

namespace Cpplet.Outline

/-- What holds of no outlines, and of an outline in front of others if it holds of the nodes below
it and of the others, holds of all lists of outlines. -/
theorem forest_induction {motive : List Outline → Prop} (nil : motive [])
    (cons : ∀ label place children others, motive children → motive others →
      motive (.node label place children :: others)) : ∀ outlines, motive outlines
  | [] => nil
  | .node label place children :: others =>
    cons label place children others (forest_induction nil cons children)
      (forest_induction nil cons others)

/-- The rows of an outline in front of others: its root, what is below it, and the others. -/
theorem rowsOfAll_cons (depth : Nat) (label : String) (place : Option Location)
    (children others : List Outline) :
    rowsOfAll depth (.node label place children :: others) =
      ⟨depth, label, place⟩ :: (rowsOfAll (depth + 1) children ++ rowsOfAll depth others) := by
  rw [rowsOfAll, rowsAt, List.cons_append]

/-! ## Depths -/

/-- No row of outlines is above their roots. -/
theorem le_depth_rowsOfAll (outlines : List Outline) (depth : Nat) :
    ∀ row ∈ rowsOfAll depth outlines, depth ≤ row.depth := by
  induction outlines using forest_induction generalizing depth with
  | nil =>
    intro row member
    cases member
  | cons label place children others ihChildren ihOthers =>
    intro row member
    rw [rowsOfAll_cons] at member
    rcases List.mem_cons.mp member with rfl | member
    · exact Nat.le_refl depth
    · rcases List.mem_append.mp member with below | behind
      · have deeper := ihChildren (depth + 1) row below
        omega
      · exact ihOthers depth row behind

/-- The first row of outlines is the root of the first. -/
theorem depth_of_head?_rowsOfAll {outlines : List Outline} {depth : Nat} {row : Row}
    (first : row ∈ (rowsOfAll depth outlines).head?) : row.depth = depth := by
  cases outlines with
  | nil => cases first
  | cons outline others =>
    obtain ⟨label, place, children⟩ := outline
    rw [rowsOfAll_cons] at first
    cases first
    rfl

/-- Whether a row is at most one level below the row before it. -/
def Row.Follows (before row : Row) : Prop := row.depth ≤ before.depth + 1

/-- Behind a row that is at most one level above the roots of outlines, each of their rows is at
most one level below the row before it. -/
theorem isChain_rowsOfAll (outlines : List Outline) {depth : Nat} {before : Row}
    (above : depth ≤ before.depth + 1) :
    (before :: rowsOfAll depth outlines).IsChain Row.Follows := by
  induction outlines using forest_induction generalizing depth before with
  | nil => exact .singleton before
  | cons label place children others ihChildren ihOthers =>
    have below := @ihChildren (depth + 1) ⟨depth, label, place⟩ (Nat.le_refl _)
    rw [rowsOfAll_cons, ← List.cons_append]
    refine .cons_cons above (List.isChain_append.mpr ⟨below, ?_, ?_⟩)
    · exact (@ihOthers depth ⟨depth, label, place⟩ (Nat.le_succ depth)).tail
    · -- The others begin at the depth of the root, which no row before them is above.
      intro last atEnd row first
      have member := List.mem_of_getLast? atEnd
      have deep : depth ≤ last.depth := by
        rcases List.mem_cons.mp member with rfl | inner
        · exact Nat.le_refl depth
        · have deeper := le_depth_rowsOfAll children (depth + 1) last inner
          omega
      have root := depth_of_head?_rowsOfAll first
      show row.depth ≤ last.depth + 1
      omega

/-! ## Labels -/

/-- What a row shows apart from its place. -/
def Row.shown (row : Row) : Nat × String := (row.depth, row.label)

mutual

/-- The outline without places. -/
def unplaced : Outline → Outline
  | .node label _ children => .node label none (unplacedAll children)

/-- Outlines without places. -/
def unplacedAll : List Outline → List Outline
  | [] => []
  | outline :: others => unplaced outline :: unplacedAll others

end

/-- Outlines lose their places one by one. -/
theorem unplacedAll_eq_map (outlines : List Outline) :
    unplacedAll outlines = outlines.map unplaced := by
  induction outlines with
  | nil => rfl
  | cons outline others ih => rw [unplacedAll, ih, List.map_cons]

/-- A node loses its place, and so do the nodes below it. -/
@[simp]
theorem unplaced_node (label : String) (place : Option Location) (children : List Outline) :
    unplaced (.node label place children) = .node label none (children.map unplaced) := by
  rw [unplaced, unplacedAll_eq_map]

/-- Whether what follows the rows of outlines at a depth begins above that depth, if at all. -/
def Above (depth : Nat) (rest : List (Nat × String)) : Prop := ∀ row ∈ rest.head?, row.1 < depth

/-- What the rows of an outline in front of others show. -/
theorem shown_rowsOfAll_cons (depth : Nat) (label : String) (place : Option Location)
    (children others : List Outline) :
    (rowsOfAll depth (.node label place children :: others)).map Row.shown =
      (depth, label) :: ((rowsOfAll (depth + 1) children).map Row.shown ++
        (rowsOfAll depth others).map Row.shown) := by
  rw [rowsOfAll_cons, List.map_cons, List.map_append, Row.shown]

/-- Above the depth below a root there is what follows the nodes below it: the other outlines and
then what is above the root. -/
theorem above_others {depth : Nat} {rest : List (Nat × String)} (above : Above depth rest)
    (others : List Outline) :
    Above (depth + 1) ((rowsOfAll depth others).map Row.shown ++ rest) := by
  intro row first
  cases others with
  | nil =>
    have higher := above row first
    omega
  | cons outline others =>
    obtain ⟨label, place, children⟩ := outline
    rw [shown_rowsOfAll_cons] at first
    cases first
    exact Nat.lt_succ_self depth

/-- Outlines are told by the depths and labels of their rows and end where a row above their roots
follows: where the same depths and labels are the beginning of the rows of two lists of outlines,
the lists are the same up to places, and what follows is the same. -/
theorem unplacedAll_of_rows (first : List Outline) {second : List Outline} {depth : Nat}
    {left right : List (Nat × String)} (aboveLeft : Above depth left)
    (aboveRight : Above depth right)
    (same : (rowsOfAll depth first).map Row.shown ++ left =
      (rowsOfAll depth second).map Row.shown ++ right) :
    unplacedAll first = unplacedAll second ∧ left = right := by
  induction first using forest_induction generalizing second depth left right with
  | nil =>
    cases second with
    | nil => exact ⟨rfl, same⟩
    | cons outline others =>
      -- What follows no outlines cannot begin with a root.
      obtain ⟨label, place, children⟩ := outline
      rw [shown_rowsOfAll_cons] at same
      have head : left.head? = some (depth, label) := by
        have heads := congrArg List.head? same
        simpa [rowsOfAll] using heads
      have higher := aboveLeft _ head
      exact absurd higher (Nat.lt_irrefl depth)
  | cons label place children others ihChildren ihOthers =>
    cases second with
    | nil =>
      rw [shown_rowsOfAll_cons] at same
      have head : right.head? = some (depth, label) := by
        have heads := congrArg List.head? same
        simpa [rowsOfAll] using heads.symm
      have higher := aboveRight _ head
      exact absurd higher (Nat.lt_irrefl depth)
    | cons outline behind =>
      obtain ⟨labelOther, placeOther, childrenOther⟩ := outline
      simp only [shown_rowsOfAll_cons, List.cons_append, List.append_assoc, List.cons.injEq,
        Prod.mk.injEq, true_and] at same
      obtain ⟨sameLabel, sameRows⟩ := same
      obtain ⟨below, sameBehind⟩ := ihChildren (above_others aboveLeft others)
        (above_others aboveRight behind) sameRows
      obtain ⟨sameOthers, sameRest⟩ := ihOthers aboveLeft aboveRight sameBehind
      refine ⟨?_, sameRest⟩
      rw [unplacedAll, unplacedAll, unplaced, unplaced, sameLabel, below, sameOthers]

/-- Outlines whose rows agree in depth and label are the same up to places. -/
theorem unplaced_of_rows {first second : Outline}
    (same : first.rows.map Row.shown = second.rows.map Row.shown) :
    first.unplaced = second.unplaced := by
  have nothing : Above 0 [] := by
    intro row member
    cases member
  have alone (outline : Outline) : rowsOfAll 0 [outline] = outline.rows := by
    rw [rowsOfAll, rowsOfAll, List.append_nil, rows]
  have together := @unplacedAll_of_rows [first] [second] 0 [] [] nothing nothing
    (by rw [alone, alone, same])
  rw [unplacedAll, unplacedAll] at together
  exact (List.cons.inj together.1).1

end Cpplet.Outline

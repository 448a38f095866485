import Cpplet.Proofs.Acceptance

/-!
# Exploring a source

Whatever keys are pressed and however often the explorer is drawn, each of its two lists keeps a
selected entry, and drawing brings that entry of the list shown into view. The two lists do not
disturb one another: how one of them stands is told by what was done while it was shown, and by
the keys that exchange the lists and the panes (`selections_stand`).
-/

namespace Cpplet

open Screen

namespace Explorer

/-- What can happen to the explorer. -/
inductive Action where
  /-- A key is pressed. -/
  | press (key : Key)
  /-- The explorer is drawn on a screen of some size. -/
  | draw (size : Size)
deriving DecidableEq, Repr

variable (explorer : Explorer)

/-- The explorer after an action. -/
def act : Action → Explorer
  | .press key => explorer.press key
  | .draw size => (explorer.draw size).2

/-- The explorer after some actions. -/
def run (actions : List Action) : Explorer := actions.foldl act explorer

/-- The state of one of the lists. -/
def stateOf : View → ListState
  | .tree => explorer.treeState
  | .tokens => explorer.tokenState

/-- The entries of one of the lists. -/
def entriesOf : View → List Entry
  | .tree => explorer.treeEntries
  | .tokens => explorer.tokenEntries

/-- The area of the source pane. -/
def sourceArea (size : Size) : Size := ⟨sourceWidth size.width, size.height - 1⟩

/-- The area of the outline pane. -/
def outlineArea (size : Size) : Size := ⟨size.width - sourceWidth size.width, size.height - 1⟩

/-- The state of the list shown is that of the list of the view. -/
theorem listState_eq : explorer.listState = explorer.stateOf explorer.view := by
  unfold listState stateOf
  cases explorer.view <;> rfl

/-- The entries shown are those of the list of the view. -/
theorem entries_eq : explorer.entries = explorer.entriesOf explorer.view := by
  unfold entries entriesOf
  cases explorer.view <;> rfl

variable {explorer}

/-- Some actions and then others are all of them in a row. -/
theorem run_append (first second : List Action) :
    explorer.run (first ++ second) = (explorer.run first).run second := by
  rw [run, List.foldl_append]
  rfl

/-- What every action keeps, a run keeps. -/
theorem run_induction {kept : Explorer → Prop} (step : ∀ other : Explorer, kept other →
    ∀ action, kept (other.act action)) (start : kept explorer) (actions : List Action) :
    kept (explorer.run actions) := by
  induction actions generalizing explorer with
  | nil => exact start
  | cons action actions ih => exact ih (step explorer start action)

/-! ## What a key does -/

/-- What a key does to two explorers at once, if it does the same kind of thing to both. -/
theorem press_both {related : Explorer → Explorer → Prop} {left right : Explorer} (key : Key)
    (leave : related { left with quit := true } { right with quit := true })
    (turn : key = .tab →
      related { left with focus := left.focus.other } { right with focus := right.focus.other })
    (exchange : key = .char 't' → related left.exchangeView right.exchangeView)
    (move : ∀ move, related (left.move move) (right.move move))
    (first : related (left.select 0) (right.select 0))
    (last : related (left.select (left.entries.length - 1))
      (right.select (right.entries.length - 1)))
    (stay : related left right) : related (left.press key) (right.press key) := by
  unfold press
  split
  · exact leave
  · exact leave
  · exact leave
  · exact turn rfl
  · exact exchange rfl
  · exact move _
  · exact move _
  · exact move _
  · exact move _
  · exact move _
  · exact move _
  · exact first
  · exact last
  · exact stay

/-! ## What the actions have in common -/

end Explorer

/-- The list state with an entry selected, the last one if the number is too large. -/
def Explorer.ListState.choose (state : ListState) (index count : Nat) : ListState :=
  if count = 0 then state else { state with selected := some (min index (count - 1)) }

/-- The list state with which a pane shows a number of entries. -/
def Explorer.ListState.shown (state : ListState) (area : Size) (count : Nat) : ListState :=
  if area.inner.isEmpty then state else state.settle count area.inner.height

namespace Explorer

variable (explorer : Explorer)

/-- The explorer with the source scrolled and a message. -/
def scrolled (scroll : Scroll) (status : String) : Explorer := { explorer with scroll, status }

/-- The state that a list has already changes nothing. -/
theorem setListState_listState : explorer.setListState explorer.listState = explorer := by
  obtain ⟨_, _, _, view, _, _, _, _, _, _⟩ := explorer
  cases view <;> rfl

/-- Selecting an entry changes the list shown, the scrolling and the message. -/
theorem exists_select_eq (index : Nat) :
    ∃ scroll status, explorer.select index =
      (explorer.setListState (explorer.listState.choose index explorer.entries.length)).scrolled
        scroll status := by
  unfold select ListState.choose
  by_cases empty : explorer.entries.length = 0
  · refine ⟨explorer.scroll, explorer.status, ?_⟩
    rw [if_pos empty, if_pos empty, setListState_listState]
    rfl
  · rw [if_neg empty, if_neg empty]
    exact ⟨_, _, rfl⟩

/-- With the focus on the list, moving selects an entry. -/
theorem move_of_outline (focused : explorer.focus = .outline) (move : Move) :
    explorer.move move = explorer.select (move.apply (explorer.listState.selected.getD 0)) := by
  unfold Explorer.move
  rw [focused]

/-- With the focus on the source, moving scrolls it. -/
theorem move_of_source (focused : explorer.focus = .source) (move : Move) :
    explorer.move move = explorer.scrolled ⟨move.apply explorer.scroll.offset, false⟩
      explorer.status := by
  unfold Explorer.move
  split
  · rename_i other
    rw [focused] at other
    cases other
  · rfl

variable {explorer} in
/-- What a key does, if scrolling and messages do not matter. -/
theorem press_induction {kept : Explorer → Prop} (key : Key)
    (leave : kept { explorer with quit := true })
    (turn : key = .tab → kept { explorer with focus := explorer.focus.other })
    (exchange : key = .char 't' → kept explorer.exchangeView)
    (select : ∀ index, kept (explorer.select index))
    (scroll : ∀ scroll status, kept (explorer.scrolled scroll status)) :
    kept (explorer.press key) := by
  have move (move : Move) : kept (explorer.move move) := by
    cases focused : explorer.focus with
    | outline =>
      rw [move_of_outline explorer focused]
      exact select _
    | source =>
      rw [move_of_source explorer focused]
      exact scroll _ _
  exact @press_both (fun left _ => kept left) explorer explorer key leave turn exchange move
    (select 0) (select _) (scroll explorer.scroll explorer.status)

/-- Drawing changes the list shown and the scrolling. -/
theorem exists_draw_eq (size : Size) :
    ∃ scroll status, (explorer.draw size).2 =
      (explorer.setListState (explorer.listState.shown (outlineArea size)
        explorer.entries.length)).scrolled scroll status :=
  ⟨_, _, rfl⟩

/-! ## What stays the same -/

/-- Whether two explorers explore the same source, and the second has been left if the first has. -/
structure Follows (before after : Explorer) : Prop where
  /-- The source is the same. -/
  source : after.source = before.source
  /-- The entries of both lists are the same. -/
  entriesOf : ∀ view, after.entriesOf view = before.entriesOf view
  /-- Leaving is for good. -/
  quit : before.quit = true → after.quit = true

/-- What follows the second of two follows the first. -/
theorem Follows.trans {first second third : Explorer} (left : first.Follows second)
    (right : second.Follows third) : first.Follows third where
  source := right.source.trans left.source
  entriesOf view := (right.entriesOf view).trans (left.entriesOf view)
  quit gone := right.quit (left.quit gone)

/-- Another state of the list shown, or another scrolling, changes nothing of this. -/
theorem follows_scrolled (state : ListState) (scroll : Scroll) (status : String) :
    explorer.Follows ((explorer.setListState state).scrolled scroll status) := by
  obtain ⟨_, _, _, view, _, _, _, _, _, _⟩ := explorer
  cases view <;> exact ⟨rfl, fun view => by cases view <;> rfl, id⟩

/-- Another state of the list shown does not change which one it is. -/
theorem view_scrolled (state : ListState) (scroll : Scroll) (status : String) :
    ((explorer.setListState state).scrolled scroll status).view = explorer.view := by
  obtain ⟨_, _, _, view, _, _, _, _, _, _⟩ := explorer
  cases view <;> rfl

/-- Another state of the list shown does not move the focus. -/
theorem focus_scrolled (state : ListState) (scroll : Scroll) (status : String) :
    ((explorer.setListState state).scrolled scroll status).focus = explorer.focus := by
  obtain ⟨_, _, _, view, _, _, _, _, _, _⟩ := explorer
  cases view <;> rfl

/-- Whatever happens, the source and the entries stay the same. -/
theorem follows_act (action : Action) : explorer.Follows (explorer.act action) := by
  cases action with
  | press key =>
    apply press_induction key
    · exact ⟨rfl, fun view => by cases view <;> rfl, fun _ => rfl⟩
    · exact fun _ => ⟨rfl, fun view => by cases view <;> rfl, id⟩
    · exact fun _ => ⟨rfl, fun view => by cases view <;> rfl, id⟩
    · intro index
      obtain ⟨scroll, status, same⟩ := explorer.exists_select_eq index
      rw [same]
      exact follows_scrolled explorer _ scroll status
    · exact fun scroll status => ⟨rfl, fun view => by cases view <;> rfl, id⟩
  | draw size =>
    obtain ⟨scroll, status, same⟩ := explorer.exists_draw_eq size
    rw [act, same]
    exact follows_scrolled explorer _ scroll status

/-- After any actions, the source and the entries are those of the beginning. -/
theorem follows_run (actions : List Action) : explorer.Follows (explorer.run actions) :=
  run_induction (fun other follows action => follows.trans (follows_act other action))
    ⟨rfl, fun _ => rfl, id⟩ actions

/-- Only its key exchanges the lists. -/
theorem view_act {action : Action} (other : action ≠ .press (.char 't')) :
    (explorer.act action).view = explorer.view := by
  cases action with
  | press key =>
    apply @press_induction explorer (fun after => after.view = explorer.view) key
    · rfl
    · exact fun _ => rfl
    · exact fun same => absurd (congrArg Action.press same) other
    · intro index
      obtain ⟨scroll, status, same⟩ := explorer.exists_select_eq index
      rw [same]
      exact view_scrolled explorer _ scroll status
    · exact fun _ _ => rfl
  | draw size =>
    obtain ⟨scroll, status, same⟩ := explorer.exists_draw_eq size
    rw [act, same]
    exact view_scrolled explorer _ scroll status

/-! ## Selections -/

/-- Whether each list has a selected entry. -/
def Selects : Prop :=
  ∀ view, ∃ index, (explorer.stateOf view).selected = some index ∧
    index < (explorer.entriesOf view).length

/-- Only the list shown gets another state. -/
theorem stateOf_scrolled (state : ListState) (scroll : Scroll) (status : String) (view : View) :
    ((explorer.setListState state).scrolled scroll status).stateOf view =
      if explorer.view = view then state else explorer.stateOf view := by
  obtain ⟨_, _, _, shown, _, _, _, _, _, _⟩ := explorer
  cases shown <;> cases view <;> rfl

/-- The list shown gets the state. -/
theorem listState_scrolled (state : ListState) (scroll : Scroll) (status : String) :
    ((explorer.setListState state).scrolled scroll status).listState = state := by
  rw [listState_eq, view_scrolled, stateOf_scrolled, if_pos rfl]

/-- Another state of the list shown does not change its entries. -/
theorem entries_scrolled (state : ListState) (scroll : Scroll) (status : String) :
    ((explorer.setListState state).scrolled scroll status).entries = explorer.entries := by
  rw [entries_eq, view_scrolled, (follows_scrolled explorer state scroll status).entriesOf,
    ← entries_eq]

variable {explorer}

/-- The list shown has a selected entry, if both lists have. -/
theorem Selects.shown (selects : explorer.Selects) :
    ∃ index, explorer.listState.selected = some index ∧ index < explorer.entries.length := by
  rw [listState_eq, entries_eq]
  exact selects explorer.view

/-- Each list has a selected entry still, if the state that the list shown gets has one. -/
theorem Selects.scrolled (selects : explorer.Selects) {state : ListState} {index : Nat}
    (selected : state.selected = some index) (bound : index < explorer.entries.length)
    (scroll : Scroll) (status : String) :
    ((explorer.setListState state).scrolled scroll status).Selects := by
  intro view
  rw [stateOf_scrolled, (follows_scrolled explorer state scroll status).entriesOf]
  by_cases shown : explorer.view = view
  · rw [if_pos shown, ← shown, ← entries_eq]
    exact ⟨index, selected, bound⟩
  · rw [if_neg shown]
    exact selects view

/-- A selected entry of a list that is drawn stays selected. -/
theorem selected_shown {state : ListState} {index count : Nat}
    (selected : state.selected = some index) (bound : index < count) (area : Size) :
    (state.shown area count).selected = some index := by
  unfold ListState.shown
  split
  · exact selected
  · have last : min index (count - 1) = index := by omega
    rw [ListState.settle, if_neg (by omega), selected, Option.map_some, last]

/-- Whatever happens, each list has a selected entry. -/
theorem Selects.act (selects : explorer.Selects) (action : Action) :
    (explorer.act action).Selects := by
  obtain ⟨index, selected, bound⟩ := selects.shown
  cases action with
  | press key =>
    apply press_induction key
    · exact selects
    · exact fun _ => selects
    · exact fun _ => selects
    · intro chosen
      obtain ⟨scroll, status, same⟩ := explorer.exists_select_eq chosen
      have filled : explorer.entries.length ≠ 0 := by omega
      have state : (explorer.listState.choose chosen explorer.entries.length).selected =
          some (min chosen (explorer.entries.length - 1)) := by
        rw [ListState.choose, if_neg filled]
      rw [same]
      exact selects.scrolled state (by omega) scroll status
    · exact fun _ _ => selects
  | draw size =>
    obtain ⟨scroll, status, same⟩ := explorer.exists_draw_eq size
    rw [Explorer.act, same]
    exact selects.scrolled (selected_shown selected bound _) bound scroll status

/-- A selected entry of a list that is drawn with some height comes into view. -/
theorem offset_shown {state : ListState} {index count : Nat}
    (selected : state.selected = some index) (bound : index < count) {area : Size}
    (inside : area.inner.isEmpty = false) :
    (state.shown area count).offset ≤ index ∧
      index < (state.shown area count).offset + area.inner.height := by
  have high : 0 < area.inner.height := by
    simp [Size.isEmpty] at inside
    omega
  have last : min index (count - 1) = index := by omega
  have settled : (state.shown area count).offset =
      ListState.settledOffset (some index) state.offset count area.inner.height := by
    rw [ListState.shown, inside, if_neg (by decide), ListState.settle, if_neg (by omega), selected,
      Option.map_some, last]
  rw [settled]
  unfold ListState.settledOffset
  dsimp only
  split
  · omega
  · split <;> omega

/-! ## Two lists that do not disturb one another -/

/-- Whether an action exchanges the lists or the panes. -/
def Action.isShared : Action → Bool
  | .press (.char 't') | .press .tab => true
  | _ => false

/-- What is left of some actions if all that happens while the other list is shown is left out,
unless it exchanges the lists or the panes. -/
def actionsIn (view : View) : Explorer → List Action → List Action
  | _, [] => []
  | explorer, action :: others =>
    if explorer.view = view ∨ action.isShared = true then
      action :: actionsIn view (explorer.act action) others
    else actionsIn view (explorer.act action) others

/-- Whether two explorers show the same list, have the same focus, and agree on one of the lists. -/
structure Agree (view : View) (left right : Explorer) : Prop where
  /-- The lists shown are the same. -/
  sameView : left.view = right.view
  /-- The panes with the focus are the same. -/
  sameFocus : left.focus = right.focus
  /-- The lists have the same entries. -/
  entriesOf : left.entriesOf view = right.entriesOf view
  /-- The lists have the same state. -/
  stateOf : left.stateOf view = right.stateOf view

variable {view : View} {left right : Explorer}

namespace Agree

/-- Explorers that agree with the same one agree. -/
theorem trans {middle : Explorer} (first : left.Agree view middle)
    (second : middle.Agree view right) : left.Agree view right where
  sameView := first.sameView.trans second.sameView
  sameFocus := first.sameFocus.trans second.sameFocus
  entriesOf := first.entriesOf.trans second.entriesOf
  stateOf := first.stateOf.trans second.stateOf

/-- Explorers that agree on the list shown show it in the same state. -/
theorem listState (agree : left.Agree view right) (shown : left.view = view) :
    left.listState = right.listState := by
  rw [listState_eq, listState_eq, ← agree.sameView, shown]
  exact agree.stateOf

/-- Explorers that agree on the list shown show the same entries. -/
theorem entries (agree : left.Agree view right) (shown : left.view = view) :
    left.entries = right.entries := by
  rw [entries_eq, entries_eq, ← agree.sameView, shown]
  exact agree.entriesOf

/-- Explorers agree still if the lists that they show get the same state. -/
theorem scrolled (agree : left.Agree view right) {state other : ListState}
    (same : left.view = view → state = other) (scroll scrollOther : Scroll)
    (status statusOther : String) :
    ((left.setListState state).scrolled scroll status).Agree view
      ((right.setListState other).scrolled scrollOther statusOther) where
  sameView := by
    rw [view_scrolled, view_scrolled]
    exact agree.sameView
  sameFocus := by
    rw [focus_scrolled, focus_scrolled]
    exact agree.sameFocus
  entriesOf := by
    rw [(follows_scrolled left state scroll status).entriesOf,
      (follows_scrolled right other scrollOther statusOther).entriesOf]
    exact agree.entriesOf
  stateOf := by
    rw [stateOf_scrolled, stateOf_scrolled, ← agree.sameView]
    by_cases shown : left.view = view
    · rw [if_pos shown, if_pos shown]
      exact same shown
    · rw [if_neg shown, if_neg shown]
      exact agree.stateOf

/-- Explorers that agree on the list shown agree after selecting the same entry. -/
theorem select (agree : left.Agree view right) (shown : left.view = view) (index : Nat) :
    (left.select index).Agree view (right.select index) := by
  obtain ⟨scroll, status, same⟩ := left.exists_select_eq index
  obtain ⟨scrollOther, statusOther, sameOther⟩ := right.exists_select_eq index
  rw [same, sameOther]
  apply agree.scrolled
  intro _
  rw [agree.listState shown, agree.entries shown]

/-- Explorers that agree on the list shown agree after the same move. -/
theorem move (agree : left.Agree view right) (shown : left.view = view) (move : Move) :
    (left.move move).Agree view (right.move move) := by
  cases focused : left.focus with
  | outline =>
    have focusedRight : right.focus = .outline := by rw [← agree.sameFocus, focused]
    rw [move_of_outline left focused, move_of_outline right focusedRight, agree.listState shown]
    exact agree.select shown _
  | source =>
    have focusedRight : right.focus = .source := by rw [← agree.sameFocus, focused]
    rw [move_of_source left focused, move_of_source right focusedRight]
    exact ⟨agree.sameView, agree.sameFocus, agree.entriesOf, agree.stateOf⟩

/-- Explorers that agree have the focus on the same pane after it has moved. -/
theorem turn (agree : left.Agree view right) :
    Agree view { left with focus := left.focus.other } { right with focus := right.focus.other } :=
  ⟨agree.sameView, congrArg Focus.other agree.sameFocus, agree.entriesOf, agree.stateOf⟩

/-- Explorers that agree show the same list after the lists are exchanged. -/
theorem exchangeView (agree : left.Agree view right) :
    left.exchangeView.Agree view right.exchangeView :=
  ⟨congrArg View.other agree.sameView, agree.sameFocus, agree.entriesOf, agree.stateOf⟩

/-- While a list is shown, the same happens to it in explorers that agree on it. -/
theorem act (agree : left.Agree view right) (shown : left.view = view) (action : Action) :
    (left.act action).Agree view (right.act action) := by
  cases action with
  | press key =>
    have last : left.entries.length - 1 = right.entries.length - 1 := by rw [agree.entries shown]
    apply press_both key
    · exact ⟨agree.sameView, agree.sameFocus, agree.entriesOf, agree.stateOf⟩
    · exact fun _ => agree.turn
    · exact fun _ => agree.exchangeView
    · exact agree.move shown
    · exact agree.select shown 0
    · rw [last]
      exact agree.select shown _
    · exact agree
  | draw size =>
    obtain ⟨scroll, status, same⟩ := left.exists_draw_eq size
    obtain ⟨scrollOther, statusOther, sameOther⟩ := right.exists_draw_eq size
    rw [Explorer.act, Explorer.act, same, sameOther]
    -- The explorers may be scrolled differently, which the lists do not depend on.
    apply agree.scrolled
    intro _
    rw [agree.listState shown, agree.entries shown]

/-- What exchanges the lists or the panes does so in explorers that agree. -/
theorem act_shared (agree : left.Agree view right) {action : Action}
    (shared : action.isShared = true) : (left.act action).Agree view (right.act action) := by
  unfold Action.isShared at shared
  split at shared
  · exact agree.exchangeView
  · exact agree.turn
  · cases shared

end Agree

/-- While the other list is shown, nothing happens to a list, the lists and panes are not exchanged
unless by their keys. -/
theorem agree_act (hidden : explorer.view ≠ view) {action : Action}
    (own : action.isShared ≠ true) : (explorer.act action).Agree view explorer := by
  have scrolled (state : ListState) (scroll : Scroll) (status : String) :
      ((explorer.setListState state).scrolled scroll status).Agree view explorer := by
    have same : ((explorer.setListState state).scrolled scroll status).stateOf view =
        explorer.stateOf view := by
      rw [stateOf_scrolled, if_neg hidden]
    exact ⟨view_scrolled explorer state scroll status, focus_scrolled explorer state scroll status,
      (follows_scrolled explorer state scroll status).entriesOf view, same⟩
  cases action with
  | press key =>
    apply @press_induction explorer (fun after => after.Agree view explorer) key
    · exact ⟨rfl, rfl, rfl, rfl⟩
    · rintro rfl
      exact absurd rfl own
    · rintro rfl
      exact absurd rfl own
    · intro index
      obtain ⟨scroll, status, same⟩ := explorer.exists_select_eq index
      rw [same]
      exact scrolled _ scroll status
    · exact fun _ _ => ⟨rfl, rfl, rfl, rfl⟩
  | draw size =>
    obtain ⟨scroll, status, same⟩ := explorer.exists_draw_eq size
    rw [Explorer.act, same]
    exact scrolled _ scroll status

/-- A list stands at the end as if all that happened while the other was shown had not happened,
except for exchanging the lists and the panes. -/
theorem Agree.run (agree : left.Agree view right) (actions : List Action) :
    (left.run actions).Agree view (right.run (actionsIn view left actions)) := by
  induction actions generalizing left right with
  | nil => exact agree
  | cons action others ih =>
    rw [actionsIn]
    -- The explorers may differ in the other list, the scrolling and the message; none of them says
    -- what the next action does to this list, or whether it is left out.
    by_cases shown : left.view = view
    · rw [if_pos (.inl shown)]
      exact ih (agree.act shown action)
    · by_cases shared : action.isShared = true
      · rw [if_pos (.inr shared)]
        exact ih (agree.act_shared shared)
      · rw [if_neg (not_or.mpr ⟨shown, shared⟩)]
        exact ih ((agree_act shown shared).trans agree)

/-! ## From the beginning -/

/-- In the beginning each list has a selected entry. -/
theorem selects_new {source : String} {tokens : List Token} (listed : tokenize source = .ok tokens)
    (program : Program) : (new source program tokens).Selects := by
  obtain ⟨body, location, -, rfl⟩ := feed_of_tokenize listed
  intro view
  cases view with
  | tree => exact ⟨0, rfl, Nat.succ_pos _⟩
  | tokens =>
    refine ⟨0, ?_, ?_⟩
    · cases body <;> rfl
    · simp [new, Explorer.entriesOf]

/-- Whatever happens to the explorer of a source that can be parsed, each list has a selected entry;
that of the list shown is in view after drawing with room for entries; leaving is for good; and each
list stands as if all that happened while the other was shown had not happened, except for
exchanging the lists and the panes. -/
theorem selections_stand {source : String} {program : Program}
    (parsed : parse source = .ok program) :
    ∃ start, ofSource source = .ok start ∧ ∀ actions : List Action,
      (∀ view, ∃ index, ((start.run actions).stateOf view).selected = some index ∧
        index < ((start.run actions).entriesOf view).length) ∧
      (∀ size, (outlineArea size).inner.isEmpty = false →
        ∃ index, (start.run (actions ++ [.draw size])).listState.selected = some index ∧
          (start.run (actions ++ [.draw size])).listState.offset ≤ index ∧
          index < (start.run (actions ++ [.draw size])).listState.offset +
            (outlineArea size).inner.height) ∧
      (∀ others, (start.run actions).quit = true → (start.run (actions ++ others)).quit = true) ∧
      ∀ view, (start.run (actionsIn view start actions)).stateOf view =
        (start.run actions).stateOf view := by
  obtain ⟨tokens, listed, opened⟩ := ofSource_of_parse parsed
  refine ⟨_, opened, fun actions => ?_⟩
  have selects : ((new source program tokens).run actions).Selects :=
    run_induction (fun _ selects action => selects.act action) (selects_new listed program) actions
  refine ⟨selects, fun size inside => ?_, fun others gone => ?_, fun view => ?_⟩
  · obtain ⟨index, selected, bound⟩ := selects.shown
    obtain ⟨scroll, status, same⟩ := exists_draw_eq ((new source program tokens).run actions) size
    have drawn : ((new source program tokens).run (actions ++ [.draw size])).listState =
        ((new source program tokens).run actions).listState.shown (outlineArea size)
          ((new source program tokens).run actions).entries.length := by
      rw [run_append]
      show ((((new source program tokens).run actions).draw size).2).listState = _
      rw [same, listState_scrolled]
    rw [drawn]
    exact ⟨index, selected_shown selected bound _, offset_shown selected bound inside⟩
  · rw [run_append]
    exact (follows_run _ others).quit gone
  · exact (Agree.run ⟨rfl, rfl, rfl, rfl⟩ actions).stateOf.symm

/-- The tree list stands where it was left, although the last of the tokens is selected and drawn
behind its back; and that token is in view. -/
theorem selections_stand_exchange :
    ∃ start, ofSource "int x=1;" = .ok start ∧
      (start.run [.press .down, .press (.char 't')]).treeState =
        (start.run [.press .down, .press (.char 't'), .press .finish, .draw ⟨40, 6⟩]).treeState ∧
      ∃ index, (start.run [.press .down, .press (.char 't'), .press .finish,
          .draw ⟨40, 6⟩]).listState.selected = some index ∧
        index < (start.run [.press .down, .press (.char 't'), .press .finish,
          .draw ⟨40, 6⟩]).listState.offset + 3 := by
  obtain ⟨program, parsed⟩ : ∃ program, parse "int x=1;" = .ok program := ⟨_, by cbv⟩
  obtain ⟨start, opened, stands⟩ := selections_stand parsed
  obtain ⟨tokens, -, openedNew⟩ := ofSource_of_parse parsed
  obtain rfl : new "int x=1;" program tokens = start := Except.ok.inj (openedNew ▸ opened)
  have kept : actionsIn .tree (new "int x=1;" program tokens) [.press .down, .press (.char 't'),
      .press .finish, .draw ⟨40, 6⟩] = [.press .down, .press (.char 't')] := by
    have shown : ((new "int x=1;" program tokens).act (.press .down)).view = .tree :=
      view_act _ (by decide)
    have exchanged : (((new "int x=1;" program tokens).act (.press .down)).act
        (.press (.char 't'))).view = .tokens := congrArg View.other shown
    rw [actionsIn, if_pos (.inl rfl), actionsIn, if_pos (.inl shown), actionsIn, exchanged,
      if_neg (by decide), actionsIn, view_act _ (by decide), exchanged, if_neg (by decide),
      actionsIn]
  refine ⟨_, opened, ?_, ?_⟩
  · rw [← kept]
    exact (stands [.press .down, .press (.char 't'), .press .finish, .draw ⟨40, 6⟩]).2.2.2 .tree
  · obtain ⟨index, selected, -, below⟩ :=
      (stands [.press .down, .press (.char 't'), .press .finish]).2.1 ⟨40, 6⟩ (by decide)
    exact ⟨index, selected, below⟩

end Explorer

end Cpplet

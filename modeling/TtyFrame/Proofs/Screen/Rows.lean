import TtyFrame.Screen.Reflow

/-! What holds of all rows of a grid, those of its history included. Scrolling and a change
of the lines move rows about and blank some, and bring in none but blank ones. Joining makes
new rows out of two at a time. -/

set_option autoImplicit false

namespace TtyFrame.Screen

/-- Every entry of an array has a property. -/
def Throughout {α : Type} (p : α → Prop) (entries : Array α) : Prop := ∀ entry ∈ entries, p entry

namespace Throughout

variable {α β : Type} {p : α → Prop} {entries more : Array α}

theorem replicate (count : Nat) {entry : α} (holds : p entry) :
    Throughout p (.replicate count entry) := by
  intro copy member
  rw [(Array.mem_replicate.mp member).2]
  exact holds

theorem append (left : Throughout p entries) (right : Throughout p more) :
    Throughout p (entries ++ more) := by
  intro entry member
  exact (Array.mem_append.mp member).elim (left entry) (right entry)

theorem push (all : Throughout p entries) {entry : α} (holds : p entry) :
    Throughout p (entries.push entry) := by
  intro other member
  obtain old | rfl := Array.mem_push.mp member
  · exact all other old
  · exact holds

theorem extract (all : Throughout p entries) (start stop : Nat) :
    Throughout p (entries.extract start stop) := by
  intro entry member
  obtain ⟨offset, within, rfl⟩ := Array.mem_extract_iff_getElem.mp member
  exact all _ (Array.getElem_mem _)

theorem pop (all : Throughout p entries) : Throughout p entries.pop := by
  intro entry member
  obtain ⟨place, within, rfl⟩ := Array.mem_iff_getElem.mp member
  rw [Array.getElem_pop]
  exact all _ (Array.getElem_mem _)

theorem mapIdx {q : β → Prop} {change : Nat → α → β} (all : Throughout p entries)
    (keeps : ∀ index entry, p entry → q (change index entry)) :
    Throughout q (entries.mapIdx change) := by
  intro changed member
  obtain ⟨index, within, rfl⟩ := Array.mem_mapIdx.mp member
  exact keeps index _ (all _ (Array.getElem_mem within))

theorem map {q : β → Prop} {change : α → β} (all : Throughout p entries)
    (keeps : ∀ entry, p entry → q (change entry)) : Throughout q (entries.map change) := by
  intro changed member
  obtain ⟨entry, old, rfl⟩ := Array.mem_map.mp member
  exact keeps entry (all entry old)

theorem modify {change : α → α} (all : Throughout p entries) (index : Nat)
    (keeps : ∀ entry, p entry → p (change entry)) : Throughout p (entries.modify index change) := by
  intro changed member
  obtain ⟨place, within, rfl⟩ := Array.mem_iff_getElem.mp member
  rw [Array.getElem_modify]
  split
  · exact keeps _ (all _ (Array.getElem_mem _))
  · exact all _ (Array.getElem_mem _)

theorem swapIfInBounds (all : Throughout p entries) (left right : Nat) :
    Throughout p (entries.swapIfInBounds left right) := by
  intro entry member
  obtain ⟨place, within, rfl⟩ := Array.mem_iff_getElem.mp member
  rw [Array.getElem_swapIfInBounds]
  split
  · exact all _ (Array.getElem_mem _)
  · split
    · exact all _ (Array.getElem_mem _)
    · exact all _ (Array.getElem_mem _)

theorem getD (all : Throughout p entries) {default : α} (holds : p default) (index : Nat) :
    p (entries.getD index default) := by
  rw [Array.getD_eq_getD_getElem?]
  cases found : entries[index]? with
  | none => exact holds
  | some entry => exact all entry (Array.mem_of_getElem? found)

end Throughout

/-- Blank rows have a property, and rows keep it when they are blanked. -/
structure Row.Blanks (columns : Nat) (p : Row → Prop) : Prop where
  blank : p (.blank columns)
  reset : ∀ row background, p row → p (row.reset background)

structure Grid.Rows (p : Row → Prop) (grid : Grid) : Prop where
  screen : Throughout p grid.screen
  history : Throughout p grid.history

namespace Grid

private theorem throughout_trimHistory {p : Row → Prop} {history : Array Row}
    (all : Throughout p history) (limit : Nat) : Throughout p (trimHistory limit history) := by
  unfold trimHistory
  split
  · exact all
  · exact all.extract _ _

private theorem scrollUp_columns (grid : Grid) (region : Region) (count : Nat) :
    (grid.scrollUp region count).columns = grid.columns := by
  unfold scrollUp
  split
  · rfl
  · split <;> rfl

namespace Rows

variable {p : Row → Prop} {grid : Grid}

theorem blank {columns : Nat} (blanks : Row.Blanks columns p) (lines limit : Nat) :
    (Grid.blank columns lines limit).Rows p :=
  ⟨.replicate lines blanks.blank, by simp [Throughout, Grid.blank]⟩

theorem mono {q : Row → Prop} (rows : grid.Rows p) (implies : ∀ row, p row → q row) :
    grid.Rows q :=
  ⟨fun row member => implies row (rows.screen row member),
    fun row member => implies row (rows.history row member)⟩

theorem modifyRow (rows : grid.Rows p) (line : Nat) {change : Row → Row}
    (keeps : ∀ row, p row → p (change row)) : (grid.modifyRow line change).Rows p :=
  { rows with screen := rows.screen.modify line keeps }

theorem modifyGlyph (rows : grid.Rows p) (line : Int) (column : Nat) {change : Glyph → Glyph}
    (keeps : ∀ row, p row → p (row.modify column change)) :
    (grid.modifyGlyph line column change).Rows p := by
  unfold Grid.modifyGlyph
  split
  · exact { rows with history := rows.history.modify _ keeps }
  · exact rows.modifyRow _ keeps

theorem clearHistory (rows : grid.Rows p) : grid.clearHistory.Rows p :=
  { rows with history := by simp [Throughout, Grid.clearHistory] }

theorem unwrapCursor (rows : grid.Rows p) : grid.unwrapCursor.Rows p := by
  unfold Grid.unwrapCursor
  split
  · exact { rows with }
  · exact rows

theorem allRows (rows : grid.Rows p) : ∀ row ∈ grid.allRows.toList, p row := by
  intro row member
  exact rows.history.append rows.screen row (Array.mem_toList_iff.mp member)

theorem withRows {all : Array Row} (holds : Throughout p all) : (grid.withRows all).Rows p :=
  ⟨holds.extract _ _, holds.extract _ _⟩

/-! ## Rows that are blanked -/

section Blanks

variable (rows : grid.Rows p) (blanks : Row.Blanks grid.columns p)

include rows blanks

theorem resetLines (region : Region) : (grid.resetLines region).Rows p :=
  { rows with
    screen := rows.screen.mapIdx fun line row kept => by
      split
      · exact blanks.reset row _ kept
      · exact kept }

private theorem incoming (count : Nat) : Throughout p (grid.incoming count) := by
  unfold Grid.incoming
  extract_lets fresh old all
  have fresh : Throughout p (.replicate fresh (.blank grid.columns)) := .replicate _ blanks.blank
  have held : Throughout p all :=
    (fresh.append (rows.history.extract _ _)).append (rows.screen.extract _ _)
  exact held.map fun row kept => blanks.reset row _ kept

theorem scrollUp (region : Region) (count : Nat) : (grid.scrollUp region count).Rows p := by
  unfold Grid.scrollUp
  split
  · have filled := (rows.screen.extract (min count region.size) region.stop).append
      (rows.incoming blanks (min count region.size))
    exact
      { screen := filled.append (rows.screen.extract _ _)
        history := throughout_trimHistory (rows.history.append (rows.screen.extract _ _)) _ }
  · split
    · exact rows.resetLines blanks region
    · have leaving := (rows.screen.extract region.start (region.start + count)).map
        fun row kept => blanks.reset row grid.background kept
      have stay := (rows.screen.extract 0 region.start).append
        (rows.screen.extract (region.start + count) region.stop)
      exact { rows with screen := (stay.append leaving).append (rows.screen.extract _ _) }

theorem scrollDown (region : Region) (count : Nat) : (grid.scrollDown region count).Rows p := by
  unfold Grid.scrollDown
  split
  · exact rows.resetLines blanks region
  · have leaving := (rows.screen.extract (region.stop - count) region.stop).map
      fun row kept => blanks.reset row grid.background kept
    have above := (rows.screen.extract 0 region.start).append leaving
    exact
      { rows with
        screen := (above.append (rows.screen.extract _ _)).append (rows.screen.extract _ _) }

theorem clearViewport : grid.clearViewport.Rows p := by
  have scrolled := rows.scrollUp blanks ⟨0, grid.lines⟩ grid.contentLines
  exact scrolled.resetLines ((grid.scrollUp_columns _ _).symm ▸ blanks) _

theorem reset : grid.reset.Rows p := by
  have forgotten : Rows p { grid with history := #[], cursor := {}, saved := {} } :=
    { rows with history := by simp [Throughout] }
  exact forgotten.resetLines blanks _

theorem growLines (lines : Nat) : (grid.growLines lines).Rows p where
  screen := ((rows.history.extract _ _).append rows.screen).append (.replicate _ blanks.blank)
  history := rows.history.extract _ _

theorem shrinkLines (lines : Nat) : (grid.shrinkLines lines).Rows p := by
  have scrolled := rows.scrollUp blanks ⟨0, grid.lines⟩ (grid.cursor.line + 1 - lines)
  exact { scrolled with screen := scrolled.screen.extract _ _ }

theorem resizeLines (lines : Nat) : (grid.resizeLines lines).Rows p := by
  unfold Grid.resizeLines
  split
  · exact rows.growLines blanks lines
  · split
    · exact rows.shrinkLines blanks lines
    · exact rows

end Blanks

end Rows

/-! ## Rows that are joined -/

/-- A row with what it takes over from the one that continues it, and what is left of that. -/
def joinPair (columns : Nat) (last row : Row) : Row × Row :=
  let last := last.modifyLast (·.setWraps false)
  let last :=
    if (last.get (last.size - 1)).layout.leading then (last.shrink (last.size - 1)).1 else last
  let count := min row.size (columns - last.size)
  let splits := 0 < count && (row.get (count - 1)).layout.wide
  let parts := row.splitFront (if splits then count - 1 else count)
  (last.append (if splits then parts.1.push .leadingSpacer else parts.1), parts.2)

/-- What is left over keeps a row of its own, or it is gone. -/
theorem joinRow_rows (columns lines : Nat) (joining : Joining) (last row : Row)
    (fromBottom : Nat) :
    let pair := joinPair columns last row
    let joined := (joinRow columns lines joining last row fromBottom).rows
    joined = joining.rows.pop.push pair.1 ∨
      joined = (joining.rows.pop.push (pair.1.modifyLast (·.setWraps true))).push pair.2 := by
  dsimp only
  unfold joinRow
  extract_lets unmarked trimmed room count splits moved others cursorFromBottom
  split
  next front rest parted =>
  extract_lets filled whole wrapped
  have pair : joinPair columns last row = (whole, rest) := by
    let parts := row.splitFront (if splits then count - 1 else count)
    change (trimmed.append (if splits then parts.1.push .leadingSpacer else parts.1), parts.2) = _
    rw [show parts = (front, rest) from parted]
  rw [pair]
  split
  · split
    extract_lets
    split
    extract_lets
    split
    · exact .inl rfl
    · exact .inr rfl
  · split
    · exact .inl rfl
    · exact .inr rfl

/-- Two rows that have a property leave only such rows when they are joined. -/
structure Joins (columns : Nat) (p : Row → Prop) : Prop where
  pair : ∀ last row, p last → p row →
    p (joinPair columns last row).1 ∧ p (joinPair columns last row).2
  mark : ∀ row, p row → p (row.modifyLast (·.setWraps true))

theorem throughout_joinRows {p : Row → Prop} {columns lines : Nat} (joins : Joins columns p)
    {rows : List Row} {joining : Joining} (all : Throughout p joining.rows)
    (follow : ∀ row ∈ rows, p row) :
    Throughout p (joinRows columns lines joining rows).rows := by
  induction rows generalizing joining with
  | nil => exact all
  | cons row rest ih =>
    have follows : p row := follow row List.mem_cons_self
    refine ih ?_ fun later member => follow later (List.mem_cons_of_mem row member)
    unfold joinStep
    split
    · next last back =>
      split
      · obtain ⟨first, second⟩ := joins.pair last row (all last (Array.mem_of_back? back)) follows
        obtain one | two := joinRow_rows columns lines joining last row rest.length
        · rw [one]
          exact all.pop.push first
        · rw [two]
          exact (all.pop.push (joins.mark _ first)).push second
      · exact all.push follows
    · exact all.push follows

end Grid

end TtyFrame.Screen

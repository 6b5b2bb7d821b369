import TtyFrame.Proofs.Screen.Shape

/-! A grid that is resized has the shape of its new size. Joining rows gives no more of them
and wrapping rows no fewer, so the screen stays full and the history within its limit. No
joined row is too long for the new width, and wrapped rows are all cut to it. -/

set_option autoImplicit false

namespace TtyFrame.Screen

namespace Row

theorem size_grow (row : Row) (columns : Nat) : (row.grow columns).size = max row.size columns := by
  unfold grow
  split
  · omega
  · simp only [size, Array.size_append, Array.size_replicate] at *
    omega

private theorem size_trimEmpty_le (glyphs : Array Glyph) : (trimEmpty glyphs).size ≤ glyphs.size := by
  have shorter := (List.dropWhile_sublist Glyph.isEmpty (l := glyphs.toList.reverse)).length_le
  simpa [trimEmpty] using shorter

/-- What is cut off a row and what is left of it. -/
theorem size_shrink (row : Row) (columns : Nat) :
    (row.shrink columns).1.size = min row.size columns ∧
      (row.shrink columns).2.size ≤ row.size - columns := by
  unfold shrink
  split
  · next fits => exact ⟨(Nat.min_eq_left fits).symm, Nat.zero_le _⟩
  · next long =>
    have trimmed := size_trimEmpty_le (row.cells.extract columns row.size)
    rw [Array.size_extract] at trimmed
    constructor
    · simp only [size, Array.size_extract, Nat.sub_zero]
      omega
    · dsimp only [size] at *
      omega

theorem size_splitFront (row : Row) (count : Nat) :
    (row.splitFront count).1.size = min count row.size ∧
      (row.splitFront count).2.size ≤ row.size := by
  simp only [splitFront, size, Array.size_extract]
  omega

end Row

namespace Grid

variable {columns lines limit : Nat}

/-! ## Joining -/

private theorem size_joinRow {joining : Joining} (some : 0 < joining.rows.size) (last row : Row)
    (fromBottom : Nat) :
    (joinRow columns lines joining last row fromBottom).rows.size ≤ joining.rows.size + 1 := by
  obtain one | two := joinRow_rows columns lines joining last row fromBottom
  · rw [one, Array.size_push, Array.size_pop]
    omega
  · rw [two, Array.size_push, Array.size_push, Array.size_pop]
    omega

private theorem size_joinStep (joining : Joining) (row : Row) (fromBottom : Nat) :
    (joinStep columns lines joining row fromBottom).rows.size ≤ joining.rows.size + 1 := by
  unfold joinStep
  cases back : joining.rows.back? with
  | none => exact Nat.le_of_eq (Array.size_push _)
  | some last =>
    have notEmpty : 0 < joining.rows.size := by
      refine Array.size_pos_iff.mpr fun empty => ?_
      rw [empty] at back
      cases back
    dsimp only
    split
    · exact size_joinRow notEmpty last row fromBottom
    · exact Nat.le_of_eq (Array.size_push _)

private theorem size_joinRows (joining : Joining) (rows : List Row) :
    (joinRows columns lines joining rows).rows.size ≤ joining.rows.size + rows.length := by
  induction rows generalizing joining with
  | nil => exact Nat.le_refl _
  | cons row rest ih =>
    have stepped : (joinStep columns lines joining row rest.length).rows.size ≤ _ :=
      size_joinStep joining row rest.length
    have joined := ih (joinStep columns lines joining row rest.length)
    rw [joinRows, List.length_cons]
    omega

private theorem joins_short (columns : Nat) : Joins columns (·.size ≤ columns) where
  pair last row ends follows := by
    unfold joinPair
    extract_lets unmarked trimmed count splits parts
    have trims : trimmed.size ≤ columns := by
      have unmarks : unmarked.size ≤ columns := (last.size_modifyLast _).symm ▸ ends
      unfold trimmed
      split
      · have := (unmarked.size_shrink (unmarked.size - 1)).1
        omega
      · exact unmarks
    obtain ⟨fronts, rests⟩ : parts.1.size = min (if splits then count - 1 else count) row.size ∧
        parts.2.size ≤ row.size := row.size_splitFront _
    refine ⟨?_, Nat.le_trans rests follows⟩
    have appended (front : Array Glyph) : (trimmed.append front).size = trimmed.size + front.size :=
      Array.size_append
    rw [appended]
    -- A placeholder takes the room of the glyph that is held back.
    split
    · next held =>
      have some : 0 < count := by
        simp only [splits, Bool.and_eq_true, decide_eq_true_eq] at held
        exact held.1
      rw [if_pos held] at fronts
      rw [Array.size_push]
      omega
    · next whole =>
      rw [if_neg whole] at fronts
      omega
  mark row short := (row.size_modifyLast _).symm ▸ short

/-! ## Wrapping -/

private theorem size_wrapRow (fromBottom fuel : Nat) (wrapping : Wrapping) (row : Row) :
    wrapping.rows.size < (wrapRow columns lines fromBottom fuel wrapping row).rows.size := by
  have pushed (rows : Array Row) (row : Row) : rows.size < (rows.push row).size := by
    rw [Array.size_push]
    exact Nat.lt_succ_self _
  induction fuel generalizing wrapping row with
  | zero => exact pushed _ _
  | succ fuel ih =>
    unfold wrapRow
    extract_lets
    split
    extract_lets
    split
    · exact pushed _ _
    · split
      · exact pushed _ _
      · split
        · exact pushed _ _
        · refine Nat.lt_trans ?_ (ih _ _)
          exact pushed _ _

private theorem size_wrapRows (wrapping : Wrapping) (rows : List Row) :
    wrapping.rows.size + rows.length ≤ (wrapRows columns lines wrapping rows).rows.size := by
  induction rows generalizing wrapping with
  | nil => exact Nat.le_refl _
  | cons row rest ih =>
    unfold wrapRows
    extract_lets onRow column whole next
    have longer : wrapping.rows.size < next.rows.size :=
      size_wrapRow rest.length (whole.size + column + 1)
        { wrapping with column, carried := #[] } whole
    have wrapped := ih next
    rw [List.length_cons]
    omega

/-- There is fuel for every round: a round shortens what is left of the row, or moves the
cursor to the left if only the cursor needs another row. -/
private theorem wrapRow_spans {fromBottom fuel : Nat} {wrapping : Wrapping} {row : Row}
    (two : 1 < columns) (spans : Throughout (Row.Spans columns) wrapping.rows)
    (long : columns ≤ row.size) (enough : row.size + wrapping.column < fuel) :
    Throughout (Row.Spans columns) (wrapRow columns lines fromBottom fuel wrapping row).rows := by
  induction fuel generalizing wrapping row with
  | zero => omega
  | succ fuel ih =>
    unfold wrapRow
    extract_lets isCursorRow
    split
    next kept cut shrunk =>
    have parts := row.size_shrink columns
    rw [shrunk] at parts
    obtain ⟨keeps, cuts⟩ : kept.size = min row.size columns ∧ cut.size ≤ row.size - columns := parts
    rw [Nat.min_eq_right long] at keeps
    extract_lets splits longer shorter trailing left wrapped goesOn onRow below line column
    have longs : longer.size ≤ row.size - columns + 1 := by
      unfold longer
      split
      · rw [Array.size_append]
        simp only [List.size_toArray, List.length_cons, List.length_nil]
        omega
      · omega
    have shorts : shorter.size = columns := by
      unfold shorter
      split
      · exact (kept.size_modify _ _).trans keeps
      · exact keeps
    have lefts : left.size ≤ longer.size := by
      unfold left
      split
      · rw [Array.size_pop, Array.size_modify]
        omega
      · exact Nat.le_refl _
    have wraps : Throughout (Row.Spans columns) wrapped.rows :=
      spans.push ((shorter.size_modifyLast _).trans shorts)
    split
    · exact spans.push keeps
    · next again =>
      have less : max left.size columns + column < row.size + wrapping.column := by
        by_cases more : columns < row.size
        · have stays : column ≤ wrapping.column := by
            unfold column
            split
            · exact Nat.sub_le _ _
            · exact Nat.le_refl _
          omega
        · have nothing : cut.isEmpty = true := Array.isEmpty_iff_size_eq_zero.mpr (by omega)
          rw [nothing, Bool.true_and, Bool.not_eq_true', Bool.not_eq_false, Bool.and_eq_true]
            at again
          have far : columns < wrapping.column := of_decide_eq_true again.2
          have moves : column = wrapping.column - columns :=
            if_pos (Bool.and_eq_true_iff.mpr ⟨again.1, decide_eq_true (Nat.le_of_lt far)⟩)
          omega
      split
      · exact spans.push ((shorter.size_modify _ _).trans shorts)
      · split
        · exact wraps
        · refine ih wraps ?_ ?_
          · rw [Row.size_grow]
            exact Nat.le_max_right _ _
          · rw [Row.size_grow]
            exact Nat.lt_of_lt_of_le less (Nat.le_of_lt_succ enough)

private theorem wrapRows_spans {rows : List Row} {wrapping : Wrapping} (two : 1 < columns)
    (spans : Throughout (Row.Spans columns) wrapping.rows)
    (follow : ∀ row ∈ rows, columns ≤ row.size) :
    Throughout (Row.Spans columns) (wrapRows columns lines wrapping rows).rows := by
  induction rows generalizing wrapping with
  | nil => exact spans
  | cons row rest ih =>
    unfold wrapRows
    extract_lets onRow column whole next
    have follows : columns ≤ row.size := follow row List.mem_cons_self
    have wholes : columns ≤ whole.size := by
      unfold whole
      split
      · exact follows
      · have longer : (row.prepend wrapping.carried).size = wrapping.carried.size + row.size :=
          Array.size_append
        omega
    have nexts : Throughout (Row.Spans columns) next.rows :=
      wrapRow_spans two spans wholes (Nat.lt_succ_self _)
    exact ih nexts fun later member => follow later (List.mem_cons_of_mem row member)

/-! ## A new size -/

private theorem size_allRows (grid : Grid) :
    grid.allRows.toList.length = grid.history.size + grid.screen.size := by
  rw [allRows, Array.length_toList, Array.size_append]

namespace Shaped

variable {grid : Grid}

theorem unwrapCursor (shaped : grid.Shaped columns lines limit) :
    grid.unwrapCursor.Shaped columns lines limit := by
  unfold Grid.unwrapCursor
  split
  · exact { shaped with }
  · exact shaped

/-- Enough rows for the screen, and not too many for the history. -/
theorem withRows (shaped : grid.Shaped columns lines limit) {next : Nat} {all : Array Row}
    (spans : Throughout (Row.Spans next) all) (full : lines ≤ all.size)
    (room : all.size ≤ limit + lines) :
    Shaped next lines limit { grid.withRows all with columns := next } := by
  have tall := shaped.high
  have rows : (grid.withRows all).Rows (Row.Spans next) := Rows.withRows spans
  refine { rows with wide := rfl, high := tall, limited := shaped.limited, full := ?_, kept := ?_ }
  · rw [Grid.withRows, Array.size_extract]
    omega
  · rw [Grid.withRows, Array.size_extract]
    omega

theorem growLines (shaped : grid.Shaped columns lines limit) {more : Nat} (grows : lines < more) :
    (grid.growLines more).Shaped columns more limit := by
  have before := shaped.high
  have full := shaped.full
  have within := shaped.kept
  have rows := shaped.toRows.growLines shaped.blanks more
  refine { rows, shaped with high := rfl, full := ?_, kept := ?_ }
  · simp only [Grid.growLines, Array.size_append, Array.size_extract, Array.size_replicate]
    omega
  · simp only [Grid.growLines, Array.size_extract]
    omega

theorem shrinkLines (shaped : grid.Shaped columns lines limit) {fewer : Nat}
    (shrinks : fewer < lines) : (grid.shrinkLines fewer).Shaped columns fewer limit := by
  have within : (⟨0, grid.lines⟩ : Region).stop ≤ lines := Nat.le_of_eq shaped.high
  have scrolled := shaped.scrollUp within (grid.cursor.line + 1 - fewer)
  have full := scrolled.full
  have rows := shaped.toRows.shrinkLines shaped.blanks fewer
  refine { rows, scrolled with high := rfl, full := ?_ }
  rw [Grid.shrinkLines, Array.size_extract]
  omega

theorem resizeLines (shaped : grid.Shaped columns lines limit) (next : Nat) :
    (grid.resizeLines next).Shaped columns next limit := by
  have before := shaped.high
  unfold Grid.resizeLines
  split
  · exact shaped.growLines (by omega)
  · split
    · exact shaped.shrinkLines (by omega)
    · have same : lines = next := by omega
      exact same ▸ shaped

theorem joinColumns (shaped : grid.Shaped columns lines limit) {more : Nat}
    (grows : columns ≤ more) : (grid.joinColumns more).Shaped more lines limit := by
  have plain := shaped.unwrapCursor
  unfold Grid.joinColumns
  extract_lets unwrapped joined missing line all below overflow rows line'
  have tall : unwrapped.lines = lines := plain.high
  have within : unwrapped.history.size ≤ limit := plain.kept
  have full : unwrapped.screen.size = lines := plain.full
  have joinedSize : joined.rows.size ≤ 0 + unwrapped.allRows.toList.length := size_joinRows _ _
  rw [size_allRows] at joinedSize
  have allSize : all.size = joined.rows.size + missing := by
    simp only [all, Array.size_append, Array.size_replicate]
  have rowsSize : (rows.map (·.grow more)).size =
      min (all.size + overflow - joined.delta) all.size := by
    simp only [rows, Array.size_map, Array.size_extract, Nat.sub_zero]
  -- Only rows that do not fit on the screen are cut off at the bottom.
  have taken : joined.delta - (all.size - unwrapped.lines) ≤ overflow := by omega
  have short : Throughout (·.size ≤ more) joined.rows :=
    throughout_joinRows (joins_short more) (by simp [Throughout]) fun row member =>
      Nat.le_trans (Nat.le_of_eq (plain.toRows.allRows row member)) grows
  have filled : Throughout (·.size ≤ more) all :=
    short.append (.replicate _ (Nat.le_of_eq (Row.size_blank more)))
  have spans : Throughout (Row.Spans more) (rows.map (·.grow more)) :=
    (filled.extract _ _).map fun row fits => (row.size_grow more).trans (Nat.max_eq_right fits)
  exact { plain.withRows spans (by omega) (by omega) with }

theorem widen (shaped : grid.Shaped columns lines limit) {more : Nat} (grows : columns ≤ more) :
    (grid.widen more).Shaped more lines limit := by
  have spans (row : Row) (before : row.Spans columns) : (row.grow more).Spans more :=
    (row.size_grow more).trans (Nat.max_eq_right (before.symm ▸ grows))
  exact
    { shaped with
      screen := shaped.screen.map spans
      history := shaped.history.map spans
      wide := rfl
      full := Array.size_map.trans shaped.full
      kept := Array.size_map.symm ▸ shaped.kept }

theorem wrapColumns (shaped : grid.Shaped columns lines limit) {fewer : Nat} (two : 1 < fewer)
    (shrinks : fewer ≤ columns) : (grid.wrapColumns fewer).Shaped fewer lines limit := by
  have plain := shaped.unwrapCursor
  unfold Grid.wrapColumns
  extract_lets unwrapped wrapped kept rows cut
  have tall : unwrapped.lines = lines := plain.high
  have bound : unwrapped.limit = limit := plain.limited
  have full : unwrapped.screen.size = lines := plain.full
  have wrappedSize : 0 + unwrapped.allRows.toList.length ≤ wrapped.rows.size :=
    size_wrapRows { line := _, column := _ } unwrapped.allRows.toList
  rw [size_allRows] at wrappedSize
  have rowsSize : rows.size = kept := by
    simp only [rows, Array.size_extract]
    omega
  have wraps : Throughout (Row.Spans fewer) wrapped.rows :=
    wrapRows_spans two (by simp [Throughout]) fun row member =>
      Nat.le_trans shrinks (Nat.le_of_eq (plain.toRows.allRows row member).symm)
  have spans : Throughout (Row.Spans fewer) rows := wraps.extract _ _
  exact { plain.withRows spans (by omega) (by omega) with }

theorem narrow (shaped : grid.Shaped columns lines limit) {fewer : Nat}
    (shrinks : fewer ≤ columns) : (grid.narrow fewer).Shaped fewer lines limit := by
  have spans (row : Row) (before : row.Spans columns) : (row.shrink fewer).1.Spans fewer :=
    (row.size_shrink fewer).1.trans (Nat.min_eq_right (before.symm ▸ shrinks))
  exact
    { shaped with
      screen := shaped.screen.map spans
      history := shaped.history.map spans
      wide := rfl
      full := Array.size_map.trans shaped.full
      kept := Array.size_map.symm ▸ shaped.kept }

theorem resizeColumns (shaped : grid.Shaped columns lines limit) (reflow : Bool) {next : Nat}
    (two : 1 < next) : (grid.resizeColumns reflow next).Shaped next lines limit := by
  have before := shaped.wide
  unfold Grid.resizeColumns
  split
  · next grows =>
    rw [before] at grows
    split
    · exact shaped.joinColumns (Nat.le_of_lt grows)
    · exact shaped.widen (Nat.le_of_lt grows)
  · split
    · next shrinks =>
      rw [before] at shrinks
      split
      · exact shaped.wrapColumns two (Nat.le_of_lt shrinks)
      · exact shaped.narrow (Nat.le_of_lt shrinks)
    · have same : columns = next := by omega
      exact same ▸ shaped

/-- A grid of one column has no room for a wide glyph, so wrapping asks for two. -/
theorem resize (shaped : grid.Shaped columns lines limit) (reflow : Bool) {nextColumns : Nat}
    (two : 1 < nextColumns) (nextLines : Nat) :
    (grid.resize reflow nextColumns nextLines).Shaped nextColumns nextLines limit := by
  have plain : Shaped columns lines limit { grid with cursor := { grid.cursor with pen := {} } } :=
    { shaped with }
  exact { (plain.resizeLines nextLines).resizeColumns reflow two with }

end Shaped

end Grid

end TtyFrame.Screen

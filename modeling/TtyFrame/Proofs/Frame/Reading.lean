import TtyFrame.Proofs.Frame.Writing

/-! What is read off a frame. The text of a row and the cursor are a matter of the cells. -/

set_option autoImplicit false

namespace TtyFrame

variable {frame : Frame}

private theorem Frame.row?_eq (full : frame.cells.size = frame.columns * frame.rows) {row : Nat}
    (inRows : row < frame.rows) {cellAt : Nat → Cell}
    (cells : ∀ column < frame.columns, frame.cell? row column = some (cellAt column)) :
    frame.row? row = some ((List.range frame.columns).map cellAt).toArray := by
  have above : (row + 1) * frame.columns ≤ frame.rows * frame.columns :=
    Nat.mul_le_mul_right _ inRows
  rw [Nat.mul_comm frame.rows, ← full] at above
  have wide : min ((row + 1) * frame.columns) frame.cells.size - row * frame.columns =
      frame.columns := by
    rw [Nat.min_eq_left above, Nat.add_mul, Nat.one_mul, Nat.add_sub_cancel_left]
  rw [row?, if_pos inRows]
  refine congrArg some (Array.ext (by simp [wide]) fun column within _ => ?_)
  have inColumns : column < frame.columns := by simpa [wide] using within
  have here := cells column inColumns
  rw [cell?, if_pos ⟨inRows, inColumns⟩] at here
  obtain ⟨_, same⟩ := Array.getElem?_eq_some_iff.mp here
  simpa using same

/-- The text of a row has the characters of its cells in order. It leaves out continuations,
wherever they stand, and blanks at the end. -/
theorem Frame.rowText_eq (full : frame.cells.size = frame.columns * frame.rows) {row : Nat}
    (inRows : row < frame.rows) {cellAt : Nat → Cell}
    (cells : ∀ column < frame.columns, frame.cell? row column = some (cellAt column)) :
    frame.rowText row = String.ofList (Text.trimEnd ((List.range frame.columns).filterMap
      fun column => if (cellAt column).isContinuation then none
        else some (cellAt column).character)) := by
  rw [rowText, row?_eq full inRows cells, Option.map_some, Option.getD_some, textOf]
  congr 2
  generalize List.range frame.columns = columns
  induction columns with
  | nil => rfl
  | cons column rest ih =>
    cases continued : (cellAt column).isContinuation <;> simp_all

/-- A cursor that is drawn stands where the cursor of the screen is, or one column to the
left of it if that cell is a continuation. -/
theorem Cursor.shown_cases {cursor drawn : Cursor} {columns rows : Nat} {cells : Array Cell}
    (shown : cursor.shown columns rows cells = some drawn) {cell : Cell}
    (under : cursor.row < rows → cursor.column < columns →
      cells[cursor.row * columns + cursor.column]? = some cell) :
    cursor.row < rows ∧ cursor.column < columns ∧ drawn.row = cursor.row ∧
      drawn.column = if cell.isContinuation then cursor.column - 1 else cursor.column := by
  unfold Cursor.shown at shown
  split at shown
  · cases shown
  · next inFrame =>
    simp only [Bool.or_eq_true, decide_eq_true_eq, not_or, Nat.not_le] at inFrame
    obtain ⟨⟨-, inRows⟩, inColumns⟩ := inFrame
    rw [under inRows inColumns] at shown
    dsimp only at shown
    split at shown
    · next moves =>
      obtain ⟨continued, _⟩ := Bool.and_eq_true_iff.mp moves
      obtain rfl := Option.some.inj shown
      exact ⟨inRows, inColumns, rfl, by rw [if_pos continued]⟩
    · next stays =>
      obtain rfl := Option.some.inj shown
      refine ⟨inRows, inColumns, rfl, ?_⟩
      split
      · next continued =>
        -- In the first column there is nothing to the left.
        have first : cursor.column = 0 := by simpa [continued] using stays
        rw [first]
      · rfl

end TtyFrame

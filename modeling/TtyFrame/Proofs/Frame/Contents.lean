import TtyFrame.Proofs.Frame.Reading

/-! The contents of a frame, whatever runs its view delivers. A place has the cell of the
last run over it, and a blank if there is none, and all ways to read the frame agree. -/

set_option autoImplicit false

namespace TtyFrame

namespace Run

def covers (run : Run) (row column : Nat) : Bool :=
  run.row = row && run.column ≤ column && column < run.column + run.text.length

/-- The cell of a run in a column, from its own text and style alone. A glyph of two columns
is wide if the text goes on with its right half, or at the edge of the frame. -/
def cellAt (run : Run) (defaults : Paint) (palette : Palette) (columns column : Nat) : Cell :=
  let raw := run.text.getD (column - run.column) ' '
  { character := if run.style.attributes.hidden ∨ raw = '\x00' then ' ' else raw
    paint := run.style.resolve defaults palette
    attributes := .ofAttributes run.style.attributes
    doubleWidth := decide (raw ≠ continuation ∧ Text.columnWidth? raw = some 2 ∧
      (run.text[column - run.column + 1]? = some continuation ∨ column + 1 = columns)) }

private theorem cell_eq_cellAt (run : Run) (defaults : Paint) (palette : Palette)
    (columns column : Nat) {raw : Char} (here : run.text[column - run.column]? = some raw) :
    run.cell defaults palette columns column raw
        (run.text.drop (column - run.column + 1)) =
      run.cellAt defaults palette columns column := by
  have same : run.text.getD (column - run.column) ' ' = raw := by
    rw [List.getD_eq_getElem?_getD, here, Option.getD_some]
  have width : isDoubleWidth columns column raw (run.text.drop (column - run.column + 1)) =
      decide (raw ≠ continuation ∧ Text.columnWidth? raw = some 2 ∧
        (run.text[column - run.column + 1]? = some continuation ∨ column + 1 = columns)) := by
    simp only [isDoubleWidth, List.head?_drop, Bool.decide_and, Bool.decide_or, Bool.and_assoc]
  have character : shownCharacter run.style.attributes.hidden raw =
      if run.style.attributes.hidden ∨ raw = '\x00' then ' ' else raw := by
    simp only [shownCharacter, Bool.or_eq_true, decide_eq_true_eq]
  rw [cell, cellAt, same, width, character]

private theorem drawn?_eq_cellAt (run : Run) (defaults : Paint) (palette : Palette)
    (columns row column : Nat) :
    run.drawn? defaults palette columns row column =
      if run.covers row column then some (run.cellAt defaults palette columns column)
      else none := by
  unfold drawn? covers
  by_cases onRow : run.row = row ∧ run.column ≤ column
  · obtain ⟨sameRow, behind⟩ := onRow
    rw [if_pos ⟨sameRow, behind⟩]
    by_cases within : column < run.column + run.text.length
    · have inText : column - run.column < run.text.length := by omega
      have here := List.getElem?_eq_getElem inText
      rw [if_pos (by simp [sameRow, behind, within]), here, Option.map_some,
        cell_eq_cellAt run defaults palette columns column here]
    · have pastText : run.text.length ≤ column - run.column := by omega
      rw [if_neg (by simp [within]), List.getElem?_eq_none pastText, Option.map_none]
  · rw [if_neg onRow, if_neg fun covered => onRow (by simp_all)]

end Run

def lastOver (row column : Nat) (runs : List Run) : Option Run :=
  (runs.filter (·.covers row column)).getLast?

theorem lastOver_cons (row column : Nat) (run : Run) (rest : List Run) :
    lastOver row column (run :: rest) =
      if run.covers row column then some ((lastOver row column rest).getD run)
      else lastOver row column rest := by
  unfold lastOver
  cases covered : run.covers row column with
  | false => simp [covered]
  | true => simp [covered, List.getLast?_cons]

private theorem findSome?_reverse_drawn? (defaults : Paint) (palette : Palette)
    (columns row column : Nat) (runs : List Run) :
    (runs.reverse.findSome? fun run => run.drawn? defaults palette columns row column) =
      (lastOver row column runs).map (·.cellAt defaults palette columns column) := by
  induction runs with
  | nil => rfl
  | cons run rest ih =>
    rw [List.reverse_cons, List.findSome?_append, ih, List.findSome?_singleton,
      Run.drawn?_eq_cellAt, lastOver_cons]
    cases run.covers row column with
    | false => simp
    | true => cases lastOver row column rest <;> rfl

namespace Frame

variable {frame : Frame}

private theorem getElem?_pieces (size : Nat) (cells : Array Cell) (count start index : Nat) :
    (pieces size cells count start)[index]? =
      if index < count then
        some (cells.extract (start + index * size) (start + (index + 1) * size))
      else none := by
  induction count generalizing start index with
  | zero => rfl
  | succ count ih =>
    cases index with
    | zero => simp [pieces]
    | succ index =>
      have first : start + size + index * size = start + (index + 1) * size := by
        rw [Nat.succ_mul]; omega
      have next : start + size + (index + 1) * size = start + (index + 1 + 1) * size := by
        rw [Nat.succ_mul (index + 1)]; omega
      rw [pieces, List.getElem?_cons_succ, ih, first, next]
      simp only [Nat.add_lt_add_iff_right]

private theorem getElem?_toRows (full : frame.cells.size = frame.columns * frame.rows)
    (some : 0 < frame.columns) (row : Nat) : frame.toRows[row]? = frame.row? row := by
  have count : frame.cells.size / frame.columns = frame.rows := by
    rw [full, Nat.mul_div_cancel_left _ some]
  rw [toRows, getElem?_pieces, count, Nat.zero_add, Nat.zero_add, row?]

private theorem row?_bind_getElem? (full : frame.cells.size = frame.columns * frame.rows)
    (row column : Nat) : ((frame.row? row).bind (·[column]?)) = frame.cell? row column := by
  unfold row? cell?
  by_cases inRows : row < frame.rows
  · have above : (row + 1) * frame.columns ≤ frame.rows * frame.columns :=
      Nat.mul_le_mul_right _ inRows
    rw [Nat.mul_comm frame.rows, ← full] at above
    rw [if_pos inRows, Option.bind_some, Array.getElem?_extract, Nat.min_eq_left above,
      Nat.succ_mul, Nat.add_sub_cancel_left]
    simp only [inRows, true_and]
  · rw [if_neg inRows, if_neg fun both => inRows both.1, Option.bind_none]

theorem cell?_eq_none_iff (full : frame.cells.size = frame.columns * frame.rows)
    (row column : Nat) :
    frame.cell? row column = none ↔ frame.rows ≤ row ∨ frame.columns ≤ column := by
  unfold cell?
  split
  · next inside =>
    obtain ⟨inRows, inColumns⟩ := inside
    have place := place_lt inRows inColumns
    rw [← full] at place
    simp only [Array.getElem?_eq_getElem place, reduceCtorEq, false_iff]
    omega
  · next outside =>
    simp only [true_iff]
    omega

theorem row?_eq_none_iff (row : Nat) : frame.row? row = none ↔ frame.rows ≤ row := by
  simp [row?]

end Frame

/-- The cursor of a view as a frame of it draws it, given whether its cell there is a
continuation. -/
def Cursor.drawnOver (cursor : Cursor) (continued : Bool) : Cursor :=
  { cursor with
    column := if continued ∧ 0 < cursor.column then cursor.column - 1 else cursor.column }

theorem Cursor.shown_eq (cursor : Cursor) {frame : Frame}
    (full : frame.cells.size = frame.columns * frame.rows) :
    cursor.shown frame.columns frame.rows frame.cells =
      if cursor.visible ∧ cursor.row < frame.rows ∧ cursor.column < frame.columns then
        some (cursor.drawnOver
          ((frame.cell? cursor.row cursor.column).any (·.isContinuation)))
      else none := by
  unfold shown
  split
  · next unseen =>
    rw [if_neg]
    rintro ⟨visible, inRows, inColumns⟩
    simp [visible, Nat.not_le_of_gt inRows, Nat.not_le_of_gt inColumns] at unseen
  · next seen =>
    simp only [Bool.or_eq_true, Bool.not_eq_true', decide_eq_true_eq, not_or,
      Bool.not_eq_false, Nat.not_le] at seen
    obtain ⟨⟨visible, inRows⟩, inColumns⟩ := seen
    have place := place_lt inRows inColumns
    rw [← full] at place
    rw [if_pos ⟨visible, inRows, inColumns⟩, Frame.cell?, if_pos ⟨inRows, inColumns⟩,
      Array.getElem?_eq_getElem place]
    simp only [Option.any_some, drawnOver, Bool.and_eq_true, decide_eq_true_eq]
    split <;> rfl

/-- What a frame has to show of a view: the cell of the last run over each place, read in
any way, and the cursor while the live screen stands in the frame. -/
structure Frame.Shows (frame : Frame) (view : BufferView) (palette : Palette) : Prop where
  size : frame.cells.size = frame.columns * frame.rows
  cell : ∀ row < frame.rows, ∀ column < frame.columns,
    frame.cell? row column =
      some (((lastOver row column (view.runs frame.origin frame.rows)).map
        (·.cellAt frame.defaults palette frame.columns column)).getD (.blank frame.defaults))
  row : ∀ row column, (frame.row? row).bind (·[column]?) = frame.cell? row column
  toRows : ∀ row, frame.toRows[row]? = frame.row? row
  noCell : ∀ row column,
    frame.cell? row column = none ↔ frame.rows ≤ row ∨ frame.columns ≤ column
  noRow : ∀ row, frame.row? row = none ↔ frame.rows ≤ row
  cursor : frame.cursor =
    if frame.origin = 0 ∧ view.cursor.visible ∧ view.cursor.row < frame.rows ∧
        view.cursor.column < frame.columns then
      some (view.cursor.drawnOver
        ((frame.cell? view.cursor.row view.cursor.column).any (·.isContinuation)))
    else none

theorem Frame.ofView_shows (view : BufferView) (style : DefaultStyle) {columns rows : Nat}
    (someColumns : 0 < columns) (origin : Int) (palette : Palette) :
    (Frame.ofView view style columns rows origin palette).Shows view palette := by
  have full : (Frame.ofView view style columns rows origin palette).cells.size =
      columns * rows := (size_foldl_writeRun _ _ _ _ _ _).trans Array.size_replicate
  have drawn : (Frame.ofView view style columns rows origin palette).cursor =
      if (Frame.ofView view style columns rows origin palette).origin = 0 then
        view.cursor.shown (Frame.ofView view style columns rows origin palette).columns
          (Frame.ofView view style columns rows origin palette).rows
          (Frame.ofView view style columns rows origin palette).cells
      else none := rfl
  refine ⟨full, fun row inRows column inColumns => ?_, row?_bind_getElem? full,
    getElem?_toRows full someColumns, cell?_eq_none_iff full, row?_eq_none_iff, ?_⟩
  · have last := findSome?_reverse_drawn? (style.resolve palette) palette columns row column
      (view.runs (Scroll.clampOrigin origin view.history) rows)
    exact (cell?_ofView view style origin palette inRows inColumns).trans
      (congrArg (fun found => some (found.getD (.blank (style.resolve palette)))) last)
  · rw [drawn, Cursor.shown_eq view.cursor full]
    split
    · next live => simp only [live, true_and]
    · next scrolled => rw [if_neg fun all => scrolled all.1]

end TtyFrame

import TtyFrame.Frame

/-! What the runs of a view leave in the cells of a frame. Each place has the cell that
the last run over it drew there, and a blank if there was none. -/

set_option autoImplicit false

namespace TtyFrame

private theorem size_writeText (columns start : Nat) (cellOf : Nat → Char → List Char → Cell)
    (column : Nat) (text : List Char) (cells : Array Cell) :
    (writeText columns start cellOf column text cells).size = cells.size := by
  induction text generalizing column cells with
  | nil => rfl
  | cons raw rest ih =>
      rw [writeText]
      split
      · rfl
      · rw [ih, Array.size_setIfInBounds]

@[simp] theorem size_writeRun (columns rows : Nat) (defaults : Paint) (palette : Palette)
    (cells : Array Cell) (run : Run) :
    (writeRun columns rows defaults palette cells run).size = cells.size := by
  rw [writeRun]
  split
  · rfl
  · exact size_writeText _ _ _ _ _ _

theorem size_foldl_writeRun (columns rows : Nat) (defaults : Paint) (palette : Palette)
    (runs : List Run) (cells : Array Cell) :
    (runs.foldl (writeRun columns rows defaults palette) cells).size = cells.size := by
  induction runs generalizing cells with
  | nil => rfl
  | cons run rest ih => rw [List.foldl_cons, ih, size_writeRun]

private theorem getElem?_writeText_of_outside {columns start : Nat}
    (cellOf : Nat → Char → List Char → Cell) {column : Nat} (text : List Char)
    (cells : Array Cell) {place : Nat}
    (outside : place < start + column ∨ start + columns ≤ place) :
    (writeText columns start cellOf column text cells)[place]? = cells[place]? := by
  induction text generalizing column cells with
  | nil => rfl
  | cons raw rest ih =>
      rw [writeText]
      split
      · rfl
      · next inside =>
        have elsewhere : start + column ≠ place := by omega
        rw [ih _ (by omega), Array.getElem?_setIfInBounds_ne elsewhere]

/-- Within the row, each column that a text reaches has the cell of its character there. -/
theorem getElem?_writeText {columns start : Nat} (cellOf : Nat → Char → List Char → Cell)
    (column : Nat) (text : List Char) {cells : Array Cell} {place : Nat}
    (inRow : place < columns) (inCells : start + place < cells.size) :
    (writeText columns start cellOf column text cells)[start + place]? =
      if column ≤ place then
        (text[place - column]?.map fun raw =>
          cellOf place raw (text.drop (place - column + 1))).or cells[start + place]?
      else cells[start + place]? := by
  induction text generalizing column cells with
  | nil => simp [writeText]
  | cons raw rest ih =>
      rw [writeText]
      rcases Nat.lt_trichotomy place column with before | same | behind
      · rw [if_neg (Nat.not_le_of_gt before)]
        split
        · rfl
        · rw [getElem?_writeText_of_outside _ _ _ (by omega),
            Array.getElem?_setIfInBounds_ne (by omega)]
      · subst same
        rw [if_neg (Nat.not_le_of_gt inRow), if_pos (Nat.le_refl place),
          getElem?_writeText_of_outside _ _ _ (by omega),
          Array.getElem?_setIfInBounds_self_of_lt inCells, Nat.sub_self]
        rfl
      · have next : place - column = place - (column + 1) + 1 := by omega
        rw [if_neg (by omega : ¬ columns ≤ column), if_pos (Nat.le_of_lt behind),
          ih (column + 1) (by rwa [Array.size_setIfInBounds]), if_pos (Nat.succ_le_of_lt behind), next,
          Array.getElem?_setIfInBounds_ne (by omega), List.getElem?_cons_succ,
          List.drop_succ_cons]

/-- The cell that a run draws at a place, if it reaches there. -/
def Run.drawn? (run : Run) (defaults : Paint) (palette : Palette)
    (columns row column : Nat) : Option Cell :=
  if run.row = row ∧ run.column ≤ column then
    run.text[column - run.column]?.map fun raw =>
      run.cell defaults palette columns column raw
        (run.text.drop (column - run.column + 1))
  else none

theorem Run.drawn?_other_row {run : Run} {row : Nat} (other : run.row ≠ row)
    (defaults : Paint) (palette : Palette) (columns column : Nat) :
    run.drawn? defaults palette columns row column = none := by
  rw [Run.drawn?, if_neg fun same => other same.1]

theorem place_lt {columns rows row column : Nat} (inRows : row < rows)
    (inColumns : column < columns) : row * columns + column < columns * rows := by
  have rowEnd : (row + 1) * columns ≤ rows * columns := Nat.mul_le_mul_right columns inRows
  rw [Nat.add_mul, Nat.one_mul] at rowEnd
  rw [Nat.mul_comm columns rows]
  omega

private theorem getElem?_writeRun {columns rows : Nat} (defaults : Paint) (palette : Palette)
    {cells : Array Cell} (full : cells.size = columns * rows) (run : Run) {row column : Nat}
    (inRows : row < rows) (inColumns : column < columns) :
    (writeRun columns rows defaults palette cells run)[row * columns + column]? =
      (run.drawn? defaults palette columns row column).or cells[row * columns + column]? := by
  by_cases same : run.row = row
  · subst same
    have inCells : run.row * columns + column < cells.size := full ▸ place_lt inRows inColumns
    rw [writeRun, if_neg (Nat.not_le_of_gt inRows), getElem?_writeText _ _ _ inColumns inCells,
      Run.drawn?]
    by_cases reached : run.column ≤ column
    · rw [if_pos reached, if_pos ⟨rfl, reached⟩]
    · rw [if_neg reached, if_neg fun both => reached both.2, Option.none_or]
  · -- On another row the text ends before this row starts, or starts behind its end.
    rw [Run.drawn?_other_row same, Option.none_or, writeRun]
    split
    · rfl
    · apply getElem?_writeText_of_outside
      rcases Nat.lt_or_gt_of_ne same with above | below
      · right
        have rowEnd := Nat.mul_le_mul_right columns (Nat.succ_le_of_lt above)
        rw [Nat.succ_mul] at rowEnd
        omega
      · left
        have rowEnd := Nat.mul_le_mul_right columns (Nat.succ_le_of_lt below)
        rw [Nat.succ_mul] at rowEnd
        omega

/-- Runs that are written one after the other leave the cell of the last one that
reaches a place. -/
theorem getElem?_foldl_writeRun {columns rows : Nat} (defaults : Paint) (palette : Palette)
    (runs : List Run) {cells : Array Cell} (full : cells.size = columns * rows)
    {row column : Nat} (inRows : row < rows) (inColumns : column < columns) :
    (runs.foldl (writeRun columns rows defaults palette) cells)[row * columns + column]? =
      (runs.reverse.findSome? fun run => run.drawn? defaults palette columns row column).or
        cells[row * columns + column]? := by
  induction runs generalizing cells with
  | nil => rfl
  | cons run rest ih =>
      have stillFull : (writeRun columns rows defaults palette cells run).size =
          columns * rows := by rw [size_writeRun, full]
      rw [List.foldl_cons, ih stillFull, getElem?_writeRun defaults palette full run inRows
        inColumns, List.reverse_cons, List.findSome?_append, Option.or_assoc,
        List.findSome?_singleton]

/-- Every place of a frame has a cell: what the last run over it drew, or a blank. -/
theorem Frame.cell?_ofView (view : BufferView) (style : DefaultStyle) {columns rows : Nat}
    (origin : Int) (palette : Palette) {row column : Nat} (inRows : row < rows)
    (inColumns : column < columns) :
    (Frame.ofView view style columns rows origin palette).cell? row column =
      some (((view.runs (Scroll.clampOrigin origin view.history) rows).reverse.findSome?
        fun run => run.drawn? (style.resolve palette) palette columns row column).getD
          (.blank (style.resolve palette))) := by
  have blank : (Array.replicate (columns * rows) (Cell.blank (style.resolve palette)))[
      row * columns + column]? = some (.blank (style.resolve palette)) := by
    rw [Array.getElem?_replicate, if_pos (place_lt inRows inColumns)]
  rw [Frame.cell?, if_pos ⟨inRows, inColumns⟩, Frame.ofView,
    getElem?_foldl_writeRun _ _ _ Array.size_replicate inRows inColumns, blank]
  cases List.findSome? _ (List.reverse _) <;> rfl

end TtyFrame

import TtyFrame.Frame.Counted
import TtyFrame.Proofs.Frame.Contents

/-! Frames built with machine words, where a sum or a product may not fit and an index may
lie outside. For a frame whose places a word can count nothing of that happens, wherever a
view puts its runs and its cursor. -/

set_option autoImplicit false

namespace TtyFrame

/-- A counted view comes to the runs of a plain one on a window. -/
structure CountedView.Delivers (counted : CountedView) (view : BufferView) (origin : Int)
    (rows : Nat) : Prop where
  history : counted.history = view.history
  cursor : counted.cursor = view.cursor
  walk : counted.walk origin rows = .ok (view.runs origin rows)

theorem BufferView.counted_delivers (view : BufferView) (origin : Int) (rows : Nat) :
    view.counted.Delivers view origin rows := ⟨rfl, rfl, rfl⟩

namespace Word

section

variable {β : Type}

private theorem get_bind {cells : Array Cell} {place : Nat} {cell : Cell}
    (here : cells[place]? = some cell) (next : Cell → Except Trap β) :
    (get cells place >>= next) = next cell := by
  rw [get, here]
  rfl

private theorem set_bind {cells : Array Cell} {place : Nat} (within : place < cells.size)
    (cell : Cell)
    (next : Array Cell → Except Trap β) :
    (set cells place cell >>= next) = next (cells.setIfInBounds place cell) := by
  rw [set, if_pos within]
  rfl

end

theorem clampOrigin_eq (origin : Int) (history : Nat) :
    clampOrigin origin history = .ok (Scroll.clampOrigin origin history) := by
  have inRange : Scroll.saturate (-((min history Scroll.maxReach : Nat) : Int)) =
      -((min history Scroll.maxReach : Nat) : Int) := by
    unfold Scroll.saturate Scroll.maxReach
    omega
  rw [clampOrigin, negate, if_pos inRange]
  rfl

section

variable (defaults : Paint) (palette : Palette) {columns rows : Nat}

/-- The column of a character is computed only while those before it were inside the frame,
so it lies at most at the edge. -/
theorem writeText_eq (run : Run) {start index : Nat} {rest : List Char} {cells : Array Cell}
    (some : 0 < columns) (left : run.text.drop index = rest) (begun : run.column + index ≤ largest)
    (within : start + columns ≤ cells.size) (fits : cells.size ≤ largest) :
    writeText run defaults palette columns start index rest cells =
      .ok (TtyFrame.writeText columns start (run.cell defaults palette columns)
        (run.column + index) rest cells) := by
  induction rest generalizing index cells with
  | nil => rfl
  | cons raw rest ih =>
    rw [writeText, TtyFrame.writeText, add_bind begun]
    by_cases outside : columns ≤ run.column + index
    · rw [if_pos outside, if_pos outside]
      rfl
    · rw [if_neg outside, if_neg outside, add_bind (by omega), sub_bind some,
        add_bind (by omega), set_bind (by omega)]
      have tail : run.text.drop (index + 1) = rest := by
        rw [← List.drop_drop, left, List.drop_one, List.tail_cons]
      have follows : run.text[index + 1]? = rest.head? := by rw [← tail, List.head?_drop]
      have edge : (run.column + index = columns - 1) ↔ (run.column + index + 1 = columns) := by
        omega
      rw [ih tail (by omega) (by rwa [Array.size_setIfInBounds])
        (by rwa [Array.size_setIfInBounds])]
      simp only [follows, edge]
      rfl

theorem writeRun_eq {cells : Array Cell} (some : 0 < columns)
    (full : cells.size = columns * rows) (fits : columns * rows ≤ largest) {run : Run}
    (inWord : run.column ≤ largest) :
    writeRun columns rows defaults palette cells run =
      .ok (TtyFrame.writeRun columns rows defaults palette cells run) := by
  rw [writeRun, TtyFrame.writeRun]
  by_cases below : rows ≤ run.row
  · rw [if_pos below, if_pos below]
    rfl
  · have rowEnd : (run.row + 1) * columns ≤ rows * columns :=
      Nat.mul_le_mul_right columns (Nat.lt_of_not_le below)
    rw [Nat.succ_mul, Nat.mul_comm rows] at rowEnd
    rw [if_neg below, if_neg below, mul_bind (by omega)]
    exact writeText_eq defaults palette run some rfl inWord (by omega) (by omega)

theorem foldlM_writeRun_eq {runs : List Run} {cells : Array Cell} (some : 0 < columns)
    (full : cells.size = columns * rows) (fits : columns * rows ≤ largest)
    (inWords : ∀ run ∈ runs, run.column ≤ largest) :
    runs.foldlM (writeRun columns rows defaults palette) cells =
      .ok (runs.foldl (TtyFrame.writeRun columns rows defaults palette) cells) := by
  induction runs generalizing cells with
  | nil => rfl
  | cons run rest ih =>
    have first := writeRun_eq defaults palette some full fits
      (inWords run List.mem_cons_self)
    have stillFull := (size_writeRun columns rows defaults palette cells run).trans full
    rw [List.foldlM_cons, first, List.foldl_cons]
    exact ih stillFull fun later member => inWords later (List.mem_cons_of_mem _ member)

end

theorem shownCursor_eq (cursor : Cursor) {columns rows : Nat} {cells : Array Cell}
    (full : cells.size = columns * rows) (fits : columns * rows ≤ largest) :
    shownCursor cursor columns rows cells = .ok (cursor.shown columns rows cells) := by
  unfold shownCursor Cursor.shown
  by_cases unseen : (!cursor.visible || rows ≤ cursor.row || columns ≤ cursor.column) = true
  · rw [if_pos unseen, if_pos unseen]
    rfl
  · have seen := unseen
    simp only [Bool.or_eq_true, decide_eq_true_eq, not_or, Nat.not_le] at seen
    have place := place_lt seen.1.2 seen.2
    have within : cursor.row * columns + cursor.column < cells.size := full ▸ place
    have here := Array.getElem?_eq_getElem within
    rw [if_neg unseen, if_neg unseen, mul_bind (by omega), add_bind (by omega), get_bind here, here]
    dsimp only
    split
    · next moves =>
      have behind : 0 < cursor.column := by simp_all
      rw [sub_bind behind]
      rfl
    · rfl

section

variable (width : Nat) (style : DefaultStyle) {columns rows : Nat} (origin : Int)
  (palette : Palette)

theorem buildCounted_empty (buffer : Except LockError CountedView)
    (empty : columns = 0 ∨ rows = 0) :
    buildCounted width buffer style columns rows origin palette =
      .ok (.error (.invalidDimensions columns rows)) := if_pos empty

variable (someColumns : 0 < columns) (someRows : 0 < rows)

include someColumns someRows

theorem buildCounted_overflow (buffer : Except LockError CountedView)
    (many : largest < columns * rows) :
    buildCounted width buffer style columns rows origin palette = .error .overflow := by
  rw [buildCounted, if_neg (by omega), mul, if_neg (Nat.not_le.mpr many)]
  rfl

theorem buildCounted_capacity (buffer : Except LockError CountedView)
    (few : columns * rows ≤ largest) (large : largestSize < columns * rows * width) :
    buildCounted width buffer style columns rows origin palette = .error .capacity := by
  rw [buildCounted, if_neg (by omega)]
  dsimp only
  rw [mul_bind few, reserve, if_neg (Nat.not_le.mpr large)]
  rfl

variable (few : columns * rows ≤ largest) (small : columns * rows * width ≤ largestSize)

include few small

theorem buildCounted_lock (cause : LockError) :
    buildCounted width (.error cause) style columns rows origin palette =
      .ok (.error (.lock cause)) := by
  rw [buildCounted, if_neg (by omega)]
  dsimp only
  rw [mul_bind few, reserve_bind small]
  rfl

theorem buildCounted_walk {counted : CountedView} {trap : Trap}
    (stopped : counted.walk (Scroll.clampOrigin origin counted.history) rows = .error trap) :
    buildCounted width (.ok counted) style columns rows origin palette = .error trap := by
  rw [buildCounted, if_neg (by omega)]
  dsimp only
  rw [mul_bind few, reserve_bind small]
  rw [clampOrigin_eq, ok_bind, stopped]
  rfl

/-- A frame whose cells have room comes out as with unbounded numbers, if the walk delivers
the runs of the plain view. -/
theorem buildCounted_eq {counted : CountedView} {view : BufferView}
    (delivers : counted.Delivers view (Scroll.clampOrigin origin view.history) rows)
    (inWords : ∀ run ∈ view.runs (Scroll.clampOrigin origin view.history) rows,
      run.column ≤ largest) :
    buildCounted width (.ok counted) style columns rows origin palette =
      .ok (Frame.build (.ok view) style columns rows origin palette) := by
  have notEmpty : ¬ (columns = 0 ∨ rows = 0) := by omega
  have blanks : (Array.replicate (columns * rows) (Cell.blank (style.resolve palette))).size =
      columns * rows := Array.size_replicate
  have written := foldlM_writeRun_eq (style.resolve palette) palette someColumns blanks few
    inWords
  have stillFull := (size_foldl_writeRun columns rows (style.resolve palette) palette
    (view.runs (Scroll.clampOrigin origin view.history) rows) _).trans blanks
  rw [buildCounted, Frame.build, if_neg notEmpty, if_neg notEmpty]
  dsimp only
  rw [mul_bind few, reserve_bind small]
  rw [delivers.history, clampOrigin_eq, ok_bind, delivers.walk, ok_bind, written, ok_bind,
    Frame.ofView]
  by_cases live : Scroll.clampOrigin origin view.history = 0
  · rw [if_pos live, delivers.cursor, shownCursor_eq view.cursor stillFull few, ok_bind]
    simp only [if_pos live]
    rfl
  · rw [if_neg live]
    simp only [if_neg live]
    rfl

end

theorem build_eq (view : BufferView) (style : DefaultStyle) {columns rows : Nat}
    (someColumns : 0 < columns) (someRows : 0 < rows) (fits : columns * rows ≤ largest)
    (origin : Int) (palette : Palette)
    (inWords : ∀ run ∈ view.runs (Scroll.clampOrigin origin view.history) rows,
      run.column ≤ largest) :
    build (.ok view) style columns rows origin palette =
      .ok (Frame.build (.ok view) style columns rows origin palette) :=
  buildCounted_eq 0 style origin palette someColumns someRows fits (Nat.zero_le _)
    (view.counted_delivers _ rows) inWords

end Word

end TtyFrame

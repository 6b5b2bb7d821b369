import TtyFrame.Proofs.Screen.Projection
import TtyFrame.Proofs.Screen.Shape

/-! Windows on a screen. Whatever origin and size are asked for, a place of the frame shows
the glyph of its line and column, and a blank where the screen has none. -/

set_option autoImplicit false

namespace TtyFrame.Screen

theorem Grid.Rectangular.exists_row? {grid : Grid} (rectangular : grid.Rectangular)
    {line : Int} (kept : -(grid.history.size : Int) ≤ line) (shown : line < grid.lines) :
    ∃ row, grid.row? line = some row ∧ row.size = grid.columns := by
  rw [Grid.row?]
  by_cases old : line < 0
  · have inHistory : grid.history.size - (-line).toNat < grid.history.size := by omega
    rw [if_pos old, if_pos (by omega), Array.getElem?_eq_getElem inHistory]
    exact ⟨_, rfl, rectangular.history _ (Array.getElem_mem inHistory)⟩
  · have inScreen : line.toNat < grid.screen.size := by rw [rectangular.lines]; omega
    rw [if_neg old, Array.getElem?_eq_getElem inScreen]
    exact ⟨_, rfl, rectangular.screen _ (Array.getElem_mem inScreen)⟩

private theorem Grid.row?_eq_none {grid : Grid} {line : Int}
    (lost : line < -(grid.history.size : Int)) : grid.row? line = none := by
  rw [Grid.row?, if_pos (by omega), if_neg (by omega)]

namespace State

/-- The glyph in a column of a line, if there is one. -/
def glyph? (state : State) (line : Int) (column : Nat) : Option Glyph :=
  if line < state.lines then (state.grid.row? line).bind (·.cells[column]?) else none

/-- The cell that shows a place of the screen in a frame: its glyph, or a blank where it
has none. -/
def projectedCell (state : State) (palette : Palette) (defaults : Paint) (columns : Nat)
    (line : Int) (column : Nat) : Cell :=
  match state.glyph? line column with
  | some glyph =>
    glyph.projected (state.glyph? line (column + 1)) state.overrides palette defaults columns
      column
  | none => .blank defaults

theorem glyph?_isSome_iff {state : State} (rectangular : state.grid.Rectangular) {line : Int}
    (kept : -(state.grid.history.size : Int) ≤ line) (column : Nat) :
    (state.glyph? line column).isSome ↔ column < state.columns ∧ line < state.lines := by
  by_cases shown : line < state.lines
  · obtain ⟨row, found, size⟩ := rectangular.exists_row? kept shown
    have width : row.cells.size = state.columns := size
    rw [glyph?, if_pos shown, found, Option.bind_some, isSome_getElem?, width]
    exact ⟨fun inRow => ⟨inRow, shown⟩, fun both => both.1⟩
  · rw [glyph?, if_neg shown]
    exact ⟨nofun, fun both => absurd both.2 shown⟩

end State

section

variable (palette : Palette) (defaults : Paint) (columns : Nat)

private theorem findSome?_drawn_flatMap {visited : List Nat} (once : visited.Nodup)
    {runsOf : Nat → List Run} (own : ∀ row, ∀ run ∈ runsOf row, run.row = row)
    (row column : Nat) :
    ((visited.flatMap runsOf).reverse.findSome? fun run =>
        run.drawn? defaults palette columns row column) =
      if row ∈ visited then
        (runsOf row).reverse.findSome? fun run =>
          run.drawn? defaults palette columns row column
      else none := by
  induction visited with
  | nil => rfl
  | cons first rest ih =>
      obtain ⟨new, restOnce⟩ := List.nodup_cons.mp once
      rw [List.flatMap_cons, List.reverse_append, List.findSome?_append, ih restOnce]
      -- The rows are visited once each, so at most one of the two parts reaches the place.
      by_cases same : row = first
      · subst same
        rw [if_neg new, Option.none_or, if_pos List.mem_cons_self]
      · have notReached : ((runsOf first).reverse.findSome? fun run =>
            run.drawn? defaults palette columns row column) = none := by
          rw [List.findSome?_eq_none_iff]
          intro run member
          have ownRow := own first run (List.mem_reverse.mp member)
          exact Run.drawn?_other_row (ownRow ▸ Ne.symm same) _ _ _ _
        simp only [notReached, Option.or_none, List.mem_cons, same, false_or]

private theorem State.rowRuns_row (state : State) (origin : Int) (row : Nat) :
    ∀ run ∈ state.rowRuns origin row, run.row = row := by
  rw [State.rowRuns]
  cases state.grid.row? (origin + row) with
  | none => simp
  | some line => exact (groupRuns_grouped _ _ _).row_eq

private theorem State.findSome?_drawn_rowRuns (state : State) (origin : Int) (row column : Nat) :
    ((state.rowRuns origin row).reverse.findSome? fun run =>
        run.drawn? defaults palette columns row column) =
      ((state.grid.row? (origin + row)).bind fun line => line.cells[column]?.map fun glyph =>
        glyph.projected line.cells[column + 1]? state.overrides palette defaults columns
          column) := by
  rw [State.rowRuns]
  cases state.grid.row? (origin + row) with
  | none => rfl
  | some line =>
      have drawn := (groupRuns_grouped state.overrides row line.cells.toList).findSome?_drawn
        palette defaults columns (Nat.zero_le column)
      simp only [Nat.sub_zero, Array.getElem?_toList] at drawn
      exact drawn

/-- The runs of a window on the lines from a top line on and above a bottom one. -/
def State.runsBetween (state : State) (top bottom origin : Int) (rows : Nat) : List Run :=
  let first := (top - origin).toNat
  let stop := min rows (bottom - origin).toNat
  (List.range' first (stop - first)).flatMap (state.rowRuns origin)

/-- A window visits the rows that show one of the lines, in order and once each. -/
theorem State.runsBetween_visited (state : State) (top bottom origin : Int) (rows : Nat) :
    ∃ visited : List Nat, visited.Pairwise (· < ·) ∧
      state.runsBetween top bottom origin rows = visited.flatMap (state.rowRuns origin) ∧
      ∀ row, row ∈ visited ↔ row < rows ∧ top ≤ origin + row ∧ origin + row < bottom := by
  refine ⟨_, List.pairwise_lt_range', rfl, ?_⟩
  intro row
  rw [List.mem_range'_1]
  omega

theorem State.findSome?_drawn_runsBetween (state : State) {top bottom : Int}
    (within : bottom ≤ state.lines) (origin : Int) {rows row : Nat} (inRows : row < rows)
    (column : Nat) :
    ((state.runsBetween top bottom origin rows).reverse.findSome? fun run =>
        run.drawn? defaults palette columns row column).getD (.blank defaults) =
      if top ≤ origin + row ∧ origin + row < bottom then
        state.projectedCell palette defaults columns (origin + row) column
      else .blank defaults := by
  obtain ⟨visited, ordered, walk, visits⟩ := state.runsBetween_visited top bottom origin rows
  have once : visited.Nodup := ordered.imp Nat.ne_of_lt
  rw [walk, findSome?_drawn_flatMap palette defaults columns once (state.rowRuns_row origin)]
  by_cases shown : top ≤ origin + row ∧ origin + row < bottom
  · have onScreen : origin + row < state.lines := Int.lt_of_lt_of_le shown.2 within
    rw [if_pos ((visits row).mpr ⟨inRows, shown⟩), if_pos shown, State.findSome?_drawn_rowRuns,
      State.projectedCell, State.glyph?, State.glyph?, if_pos onScreen, if_pos onScreen]
    cases state.grid.row? (origin + row) with
    | none => rfl
    | some line =>
        simp only [Option.bind_some]
        cases line.cells[column]? <;> rfl
  · rw [if_neg fun visit => shown ((visits row).mp visit).2, if_neg shown]
    rfl

theorem State.findSome?_drawn_runs (state : State) (origin : Int) {rows row : Nat}
    (inRows : row < rows) (column : Nat) :
    ((state.runs origin rows).reverse.findSome? fun run =>
        run.drawn? defaults palette columns row column).getD (.blank defaults) =
      state.projectedCell palette defaults columns (origin + row) column := by
  refine (state.findSome?_drawn_runsBetween palette defaults columns (Int.le_refl _) origin inRows
    column).trans ?_
  split
  · rfl
  · next lost =>
    have noGlyph : state.glyph? (origin + row) column = none := by
      rw [State.glyph?]
      split
      · rw [Grid.row?_eq_none (by omega)]
        rfl
      · rfl
    rw [State.projectedCell, noGlyph]

end

end TtyFrame.Screen

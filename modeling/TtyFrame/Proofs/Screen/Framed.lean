import TtyFrame.Proofs.Frame.Words
import TtyFrame.Proofs.Screen.Partition

/-! Frames of a screen in machine words. A frame whose cells have room, and whose window has
a number for each of its lines, is the projection of the screen: a place shows the glyph of
its line and column, and a blank where the screen has none. -/

set_option autoImplicit false

namespace TtyFrame.Screen

open Scroll (maxReach)

private theorem Grouped.end_le {overrides : Overrides} {row start : Nat} {glyphs : List Glyph}
    {runs : List Run} (grouped : Grouped overrides row start glyphs runs) :
    ∀ run ∈ runs, run.column + run.text.length ≤ start + glyphs.length := by
  induction grouped with
  | nil => simp
  | cons _ _ _ _ ih =>
      intro run member
      rw [List.length_append]
      rcases List.mem_cons.mp member with rfl | later
      · simp only [List.length_map]
        omega
      · have := ih run later
        omega

namespace State

/-- A screen as a view of the lines between two numbers. -/
def viewBetween (state : State) (top bottom : Int) : BufferView :=
  { state.view with runs := state.runsBetween top bottom }

private theorem column_le_of_mem_runsBetween {state : State} (rectangular : state.grid.Rectangular)
    {top bottom : Int} (oldest : -(state.grid.history.size : Int) ≤ top)
    (newest : bottom ≤ state.lines) {origin : Int} {rows : Nat} {run : Run}
    (member : run ∈ state.runsBetween top bottom origin rows) : run.column ≤ state.columns := by
  obtain ⟨visited, -, delivered, visits⟩ := state.runsBetween_visited top bottom origin rows
  rw [delivered] at member
  obtain ⟨row, visit, own⟩ := List.mem_flatMap.mp member
  obtain ⟨-, kept, shown⟩ := (visits row).mp visit
  obtain ⟨line, found, size⟩ := rectangular.exists_row? (Int.le_trans oldest kept)
    (Int.lt_of_lt_of_le shown newest)
  have width : line.cells.toList.length = state.columns := size
  rw [rowRuns, found] at own
  have ends := (groupRuns_grouped state.overrides row line.cells.toList).end_le run own
  omega

theorem counted_delivers {state : State} (rectangular : state.grid.Rectangular) {origin : Int}
    {rows : Nat} (walkable : state.Walkable (Int32.ofInt origin) rows)
    (fits : (Int32.ofInt origin).toInt = origin) :
    state.counted.Delivers (state.viewBetween state.topLine state.bottomLine) origin rows := by
  refine ⟨rfl, rfl, ?_⟩
  change state.walk (Int32.ofInt origin) rows = _
  rw [walk_eq rectangular, if_pos walkable, fits]
  rfl

end State

private theorem toInt_ofInt_clampOrigin (origin : Int) (history : Nat) :
    (Int32.ofInt (Scroll.clampOrigin origin history)).toInt =
      Scroll.clampOrigin origin history := by
  unfold Scroll.clampOrigin maxReach
  rw [Int32.toInt_ofInt_of_le] <;> omega

/-- A screen whose lines all have numbers is drawn as it is with unbounded numbers. -/
theorem State.buildCounted_view {state : State} (rectangular : state.grid.Rectangular)
    (inWord : state.columns ≤ Word.largest)
    (within : state.grid.history.size + state.lines ≤ maxReach) (width : Nat)
    (style : DefaultStyle) {columns rows : Nat} (someColumns : 0 < columns) (someRows : 0 < rows)
    (few : columns * rows ≤ Word.largest) (small : columns * rows * width ≤ Word.largestSize)
    (origin : Int) (palette : Palette) :
    Word.buildCounted width (.ok state.counted) style columns rows origin palette =
      .ok (Frame.build (.ok state.view) style columns rows origin palette) := by
  have fits := toInt_ofInt_clampOrigin origin state.grid.history.size
  have top := state.topLine_eq (Nat.le_trans (Nat.le_add_right ..) within)
  have bottom := state.bottomLine_eq (Nat.le_trans (Nat.le_add_left ..) within)
  have kept : -(state.grid.history.size : Int) ≤
      (Int32.ofInt (Scroll.clampOrigin origin state.grid.history.size)).toInt := by
    rw [fits, Scroll.clampOrigin]
    omega
  have delivers := counted_delivers rectangular (walkable_of_within within kept rows) fits
  rw [top, bottom] at delivers
  exact Word.buildCounted_eq width style origin palette someColumns someRows few small delivers
    fun run member => Nat.le_trans (column_le_of_mem_runsBetween rectangular (Int.le_refl _)
      (Int.le_refl _) member) inWord

/-- A frame comes out exactly if a word can count its cells, these are no larger than an
object can be, and the window has a number for each of its lines. Then it is the projection
of the screen: each place has the cell of its line and column, and lines are counted from the
origin as the history allows it. Of a history or a screen that line numbers cannot count, it
shows the lines between the oldest one and the bottom as these numbers have them. -/
theorem counted_frame_eq_projection {state : State} (rectangular : state.grid.Rectangular)
    (inWord : state.columns ≤ Word.largest) (style : DefaultStyle) {columns rows : Nat}
    (someColumns : 0 < columns) (someRows : 0 < rows) (origin : Int32) (palette : Palette)
    (width : Nat) :
    let outcome :=
      Word.buildCounted width (.ok state.counted) style columns rows origin.toInt palette
    let first := Scroll.clampOrigin origin.toInt state.grid.history.size
    let walkable := state.Walkable (Int32.ofInt first) rows
    (Word.largest < columns * rows → outcome = .error .overflow) ∧
      (columns * rows ≤ Word.largest → Word.largestSize < columns * rows * width →
        outcome = .error .capacity) ∧
      (columns * rows ≤ Word.largest → columns * rows * width ≤ Word.largestSize →
        (¬ walkable → outcome = .error .overflow) ∧
        (walkable → ∃ frame, outcome = .ok (.ok frame) ∧
          frame.columns = columns ∧ frame.rows = rows ∧ frame.cells.size = columns * rows ∧
          frame.defaults = style.resolve palette ∧ frame.origin = first ∧
          (∀ row < rows, ∀ column < columns, frame.cell? row column =
            some (if state.topLine ≤ first + row ∧ first + row < state.bottomLine then
                state.projectedCell palette (style.resolve palette) columns (first + row) column
              else .blank (style.resolve palette))) ∧
          (state.grid.history.size ≤ maxReach → state.lines ≤ maxReach →
            first = max (-(state.grid.history.size : Int)) (min origin.toInt 0) ∧
            ∀ row < rows, ∀ column < columns, frame.cell? row column =
              some (state.projectedCell palette (style.resolve palette) columns (first + row)
                column)))) ∧
      (state.grid.history.size + state.lines ≤ maxReach → walkable) ∧
      ∀ row column : Nat, ((state.glyph? (first + row) column).isSome ↔
        column < state.columns ∧ first + row < state.lines) := by
  intro outcome first walkable
  have above := state.history_le_topLine
  have below := state.bottomLine_le_lines
  have fits : (Int32.ofInt first).toInt = first := toInt_ofInt_clampOrigin _ _
  have kept : -(state.grid.history.size : Int) ≤ first := by
    unfold first Scroll.clampOrigin
    omega
  refine ⟨fun many => ?_, fun few large => ?_, fun few small => ⟨fun lost => ?_, fun walks => ?_⟩,
    fun within => ?_, fun row column => ?_⟩
  · exact Word.buildCounted_overflow width style _ palette someColumns someRows _ many
  · exact Word.buildCounted_capacity width style _ palette someColumns someRows _ few large
  · refine Word.buildCounted_walk width style _ palette someColumns someRows few small ?_
    exact (State.walk_eq rectangular _ rows).trans (if_neg lost)
  · let view := state.viewBetween state.topLine state.bottomLine
    have built := Word.buildCounted_eq width style origin.toInt palette someColumns someRows few
      small (State.counted_delivers rectangular walks fits) fun run member => Nat.le_trans
        (State.column_le_of_mem_runsBetween rectangular above below member) inWord
    have notEmpty : ¬ (columns = 0 ∨ rows = 0) := by omega
    have cells : ∀ row < rows, ∀ column < columns,
        (Frame.ofView view style columns rows origin.toInt palette).cell? row column =
          some (if state.topLine ≤ first + row ∧ first + row < state.bottomLine then
              state.projectedCell palette (style.resolve palette) columns (first + row) column
            else .blank (style.resolve palette)) := by
      intro row inRows column inColumns
      rw [Frame.cell?_ofView _ _ _ _ inRows inColumns]
      exact congrArg some (state.findSome?_drawn_runsBetween palette _ columns below _ inRows
        column)
    refine ⟨Frame.ofView view style columns rows origin.toInt palette, ?_, rfl, rfl, ?_, rfl, rfl,
      cells, fun short low => ⟨?_, fun row inRows column inColumns => ?_⟩⟩
    · rw [Frame.build, if_neg notEmpty] at built
      exact built
    · exact (size_foldl_writeRun _ _ _ _ _ _).trans Array.size_replicate
    · unfold first Scroll.clampOrigin
      omega
    · -- With all lines numbered, a line outside the bounds is one that the screen has not.
      rw [cells row inRows column inColumns]
      split
      · rfl
      · next outside =>
        have off : ¬ (first + row : Int) < state.lines := by
          rw [State.topLine_eq short, State.bottomLine_eq low] at outside
          omega
        rw [State.projectedCell, State.glyph?, if_neg off]
  · refine State.walkable_of_within within ?_ rows
    rw [fits]
    exact kept
  · exact state.glyph?_isSome_iff rectangular (by omega) column

theorem counted_frame_halved :
    halvedState.grid.Rectangular ∧ halvedState.columns ≤ Word.largest ∧ 0 < 3 ∧
      ∃ frame, Word.buildCounted Cell.width (.ok halvedState.counted) {} 3 3 (-5) .xterm =
          .ok (.ok frame) ∧
        frame.origin = -1 ∧ frame.defaults.background = .ofPacked 0 ∧
        (frame.cell? 0 0).map (·.paint.background) = some (.ofPacked 0x112233) ∧
        (frame.cell? 0 0).map (·.doubleWidth) = some true ∧
        (frame.cell? 1 0).map (·.doubleWidth) = some false ∧
        frame.cell? 0 2 = some (.blank frame.defaults) ∧
        frame.cell? 2 0 = some (.blank frame.defaults) ∧
        (halvedState.glyph? (frame.origin + 1) 1).isSome := by
  have rectangular : halvedState.grid.Rectangular := ⟨rfl, by decide, by decide⟩
  have inWord : halvedState.columns ≤ Word.largest := by decide
  obtain ⟨-, -, room, walkable, present⟩ := counted_frame_eq_projection rectangular inWord {}
    (by decide : 0 < 3) (by decide : 0 < 3) (-5) .xterm Cell.width
  obtain ⟨frame, built, -, -, -, defaults, origin, -, whole⟩ :=
    (room (by decide) (by decide)).2 (walkable (by decide))
  obtain ⟨-, cells⟩ := whole (by decide) (by decide)
  have top : frame.origin = -1 := origin.trans (by decide)
  refine ⟨rectangular, inWord, by decide, frame, built, top, ?_, ?_, ?_, ?_, ?_, ?_, ?_⟩
  · rw [defaults]; decide
  · rw [cells 0 (by decide) 0 (by decide)]; decide +kernel
  · rw [cells 0 (by decide) 0 (by decide)]; decide +kernel
  · rw [cells 1 (by decide) 0 (by decide)]; decide +kernel
  · rw [cells 0 (by decide) 2 (by decide), defaults]; decide +kernel
  · rw [cells 2 (by decide) 0 (by decide), defaults]; decide +kernel
  · rw [origin]
    exact (present 1 1).mpr ⟨by decide, by decide⟩

/-- Two rows of as many columns as a word can count. -/
theorem frame_of_largest_columns_overflows :
    ¬ ∀ (state : State), state.grid.Rectangular → ∀ (style : DefaultStyle) (columns rows : Nat),
      0 < columns → 0 < rows → columns ≤ Word.largest → rows ≤ Word.largest →
      ∀ (origin : Int32) (palette : Palette), ∃ frame,
        Word.buildCounted Cell.width (.ok state.counted) style columns rows origin.toInt palette =
          .ok (.ok frame) := by
  intro claimed
  obtain ⟨frame, built⟩ := claimed (.blank 10 4 0 {}) (Grid.rectangular_blank 10 4 0) {}
    Word.largest 2 (by decide) (by decide) (by decide) (by decide) 0 .xterm
  rw [Word.buildCounted_overflow Cell.width {} _ .xterm (by decide) (by decide) _ (by decide)]
    at built
  cases built

end TtyFrame.Screen

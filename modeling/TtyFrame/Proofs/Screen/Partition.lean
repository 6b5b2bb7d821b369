import Mathlib.Data.List.Chain
import TtyFrame.Proofs.Screen.Walk

/-! The runs of a window share its lines out. Line by line they meet end to end from the
first column to the last, and two that meet differ in style. The walk that delivers them
counts rows and lines with machine numbers, which run over for some windows only. -/

set_option autoImplicit false

namespace TtyFrame.Screen

/-- Runs on a row that share out the glyphs from a column on. -/
structure SharedOut (overrides : Overrides) (row start : Nat) (glyphs : List Glyph)
    (runs : List Run) : Prop where
  own : ∀ run ∈ runs, run.row = row
  filled : ∀ run ∈ runs, run.text ≠ []
  first : ∀ run ∈ runs.head?, run.column = start
  next : runs.IsChain fun run after =>
    after.column = run.column + run.text.length ∧ after.style ≠ run.style
  last : ∀ run ∈ runs.getLast?, run.column + run.text.length = start + glyphs.length
  text : runs.flatMap (·.text) = glyphs.map Glyph.shown
  style : ∀ run ∈ runs, ∀ column, run.column ≤ column → column < run.column + run.text.length →
    (glyphs[column - start]?).map (·.style overrides) = some run.style

namespace Grouped

variable {overrides : Overrides} {row start : Nat} {glyphs : List Glyph} {runs : List Run}

private theorem head_column (grouped : Grouped overrides row start glyphs runs) :
    ∀ run ∈ runs.head?, run.column = start := by
  cases grouped with
  | nil => simp
  | cons => simp

private theorem runs_eq_nil_iff (grouped : Grouped overrides row start glyphs runs) :
    runs = [] ↔ glyphs = [] := by
  cases grouped with
  | nil => simp
  | cons taken => simp [taken]

theorem sharedOut (grouped : Grouped overrides row start glyphs runs) :
    SharedOut overrides row start glyphs runs := by
  induction grouped with
  | nil =>
      refine ⟨?_, ?_, ?_, .nil, ?_, rfl, ?_⟩ <;> simp
  | @cons start style stretch rest runs taken same other later ih =>
      refine ⟨?_, ?_, ?_, ?_, ?_, ?_, ?_⟩
      · intro run member
        rcases List.mem_cons.mp member with rfl | member
        · rfl
        · exact ih.own run member
      · intro run member
        rcases List.mem_cons.mp member with rfl | member
        · simpa using taken
        · exact ih.filled run member
      · simp
      · refine ih.next.cons fun after member => ⟨?_, other after member⟩
        rw [later.head_column after member, List.length_map]
      · intro run member
        -- The first run is also the last one exactly if nothing is left behind it.
        cases runs with
        | nil =>
            obtain rfl := Option.some.inj member
            simp [later.runs_eq_nil_iff.mp rfl]
        | cons after behind =>
            rw [List.getLast?_cons_cons] at member
            rw [ih.last run member, List.length_append, Nat.add_assoc]
      · simp [ih.text]
      · intro run member column least most
        rcases List.mem_cons.mp member with rfl | member
        · have inStretch : column - start < stretch.length := by
            simp only [List.length_map] at least most
            omega
          rw [List.getElem?_append_left inStretch, List.getElem?_eq_getElem inStretch]
          exact congrArg some (same _ (List.getElem_mem inStretch))
        · have behind := later.start_le run member
          have place : column - start - stretch.length = column - (start + stretch.length) := by
            omega
          rw [List.getElem?_append_right (by omega), place]
          exact ih.style run member column least most

end Grouped

open Scroll (maxReach)

/-- A line of history with a wide glyph, and a line of the screen where the right half of
that glyph is bold. -/
def halvedState : State :=
  let left : Glyph := { character := '\u115f', layout := { wide := true } }
  let right : Glyph := { layout := { spacer := true } }
  let boldRight : Glyph := { right with pen := { attributes := { bold := true } } }
  { grid :=
      { columns := 2, lines := 1, limit := 1
        history := #[⟨#[left, right], 2⟩]
        screen := #[⟨#[left, boldRight], 2⟩] }
    other := .blank 2 1 0
    region := ⟨0, 1⟩
    tabs := #[]
    overrides := Overrides.none.set NamedColor.background.slot (.ofPacked 0x112233) }

namespace State

/-- The walk over a window comes to its end exactly if no line number runs over. Then it
visits the rows that show a line, from the top down, and the runs of each share out the glyphs
of the line: no two that meet have one style. The lines are those between the oldest one and
the bottom of the screen as line numbers have them; for a history and a screen that these
numbers can count, all their lines. From within such a history no line number runs over. -/
theorem walk_shares_out_lines {state : State} (rectangular : state.grid.Rectangular)
    (origin : Int32) (rows : Nat) :
    (¬ state.Walkable origin rows → state.walk origin rows = .error .overflow) ∧
      (state.Walkable origin rows → ∃ visited : List Nat, visited.Pairwise (· < ·) ∧
        (∀ row, row ∈ visited ↔ row < rows ∧
          state.topLine ≤ origin.toInt + row ∧ origin.toInt + row < state.bottomLine) ∧
        state.walk origin rows = .ok (visited.flatMap (state.rowRuns origin.toInt)) ∧
        ∀ row ∈ visited, ∃ line, state.grid.row? (origin.toInt + row) = some line ∧
          line.size = state.columns ∧
          SharedOut state.overrides row 0 line.cells.toList (state.rowRuns origin.toInt row)) ∧
      (state.grid.history.size ≤ maxReach →
        state.topLine = -(state.grid.history.size : Int)) ∧
      (state.lines ≤ maxReach → state.bottomLine = state.lines) ∧
      (state.grid.history.size + state.lines ≤ maxReach →
        -(state.grid.history.size : Int) ≤ origin.toInt → state.Walkable origin rows) := by
  have walked := walk_eq rectangular origin rows
  refine ⟨fun lost => ?_, fun walkable => ?_, topLine_eq, bottomLine_eq,
    fun within kept => walkable_of_within within kept rows⟩
  · rw [walked, if_neg lost]
  · obtain ⟨visited, ordered, delivered, visits⟩ :=
      state.runsBetween_visited state.topLine state.bottomLine origin.toInt rows
    refine ⟨visited, ordered, visits, ?_, fun row visit => ?_⟩
    · rw [walked, if_pos walkable, delivered]
    · have above := state.history_le_topLine
      have below := state.bottomLine_le_lines
      obtain ⟨-, kept, shown⟩ := (visits row).mp visit
      obtain ⟨line, found, size⟩ := rectangular.exists_row? (Int.le_trans above kept)
        (Int.lt_of_lt_of_le shown below)
      refine ⟨line, found, size, ?_⟩
      rw [rowRuns, found]
      exact (groupRuns_grouped state.overrides row line.cells.toList).sharedOut

/-- One row of history in one run, one of the screen in two, and a row below the screen. Then
the least line number as the origin: the screen begins one row after the last one that a line
number can be added for. -/
theorem walk_shares_out_halved :
    halvedState.grid.Rectangular ∧ halvedState.Walkable (-1) 3 ∧
      (∃ visited : List Nat,
        halvedState.walk (-1) 3 = .ok (visited.flatMap (halvedState.rowRuns (-1))) ∧
        0 ∈ visited ∧ 1 ∈ visited ∧ 2 ∉ visited) ∧
      (halvedState.rowRuns (-1) 1).map (fun run => (run.row, run.column, run.text.length)) =
        [(1, 0, 1), (1, 1, 1)] ∧
      ¬ halvedState.Walkable Int32.minValue 2147483649 ∧
      halvedState.walk Int32.minValue 2147483649 = .error .overflow := by
  have rectangular : halvedState.grid.Rectangular := ⟨rfl, by decide, by decide⟩
  have walkable : halvedState.Walkable (-1) 3 := by decide
  have lost : ¬ halvedState.Walkable Int32.minValue 2147483649 := by decide
  obtain ⟨-, walks, -⟩ := walk_shares_out_lines rectangular (-1) 3
  obtain ⟨visited, -, visits, delivered, -⟩ := walks walkable
  obtain ⟨stops, -⟩ := walk_shares_out_lines rectangular Int32.minValue 2147483649
  have rows : 0 ∈ visited ∧ 1 ∈ visited ∧ 2 ∉ visited := by
    rw [visits, visits, visits]
    decide
  exact ⟨rectangular, walkable, ⟨visited, delivered, rows⟩, by decide +kernel, lost, stops lost⟩

/-- The origin of the least line number, from where the top of the screen is as many rows down
as there are negative line numbers. -/
theorem walk_from_least_overflows :
    ¬ ∀ (state : State), state.grid.Rectangular → ∀ (origin : Int32) (rows : Nat),
      ∃ runs, state.walk origin rows = .ok runs := by
  intro claimed
  obtain ⟨runs, ended⟩ := claimed (.blank 10 4 0 {}) (Grid.rectangular_blank 10 4 0)
    Int32.minValue 2147483649
  have stopped : (State.blank 10 4 0 {}).walk Int32.minValue 2147483649 = .error .overflow := by
    rw [walk_eq (Grid.rectangular_blank 10 4 0), if_neg (by decide)]
  rw [stopped] at ended
  cases ended

end State

end TtyFrame.Screen

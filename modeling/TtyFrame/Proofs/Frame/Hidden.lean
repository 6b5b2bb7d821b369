import Mathlib.Data.List.Forall2
import TtyFrame.Proofs.Frame.Contents

/-! Hidden text in frames. Two views that differ in the characters of hidden runs alone give
frames that look the same. All that can tell them apart is whether a hidden cell counts as
wide. -/

set_option autoImplicit false

namespace TtyFrame

/-- Runs that are equal, or hidden at one place and of one length. -/
structure Run.Alike (first second : Run) : Prop where
  row : first.row = second.row
  column : first.column = second.column
  style : first.style = second.style
  length : first.text.length = second.text.length
  text : first.style.attributes.hidden = false → first.text = second.text

/-- Views that differ at most in what a frame does not ask for and in hidden text. -/
structure BufferView.Alike (first second : BufferView) : Prop where
  history : first.history = second.history
  cursor : first.cursor = second.cursor
  runs : ∀ origin rows,
    List.Forall₂ Run.Alike (first.runs origin rows) (second.runs origin rows)

/-- A cell without what it says of its width. -/
def Cell.narrowed (cell : Cell) : Cell := { cell with doubleWidth := false }

/-- Frames that are equal but for the width of some cells. -/
structure Frame.Alike (first second : Frame) : Prop where
  columns : first.columns = second.columns
  rows : first.rows = second.rows
  defaults : first.defaults = second.defaults
  origin : first.origin = second.origin
  cursor : first.cursor = second.cursor
  rowText : ∀ row, first.rowText row = second.rowText row
  cell : ∀ row column,
    (first.cell? row column).map Cell.narrowed = (second.cell? row column).map Cell.narrowed

namespace Run.Alike

variable {first second : Run}

theorem covers (alike : Alike first second) (row column : Nat) :
    first.covers row column = second.covers row column := by
  simp only [Run.covers, alike.row, alike.column, alike.length]

theorem eq (alike : Alike first second) (shown : first.style.attributes.hidden = false) :
    first = second := by
  obtain ⟨row, column, style, -, text⟩ := alike
  have same := text shown
  cases first
  cases second
  simp_all

theorem narrowed (alike : Alike first second) (defaults : Paint) (palette : Palette)
    (columns column : Nat) :
    (first.cellAt defaults palette columns column).narrowed =
      (second.cellAt defaults palette columns column).narrowed := by
  cases hidden : first.style.attributes.hidden with
  | false => rw [alike.eq hidden]
  | true =>
    have other : second.style.attributes.hidden = true := by rw [← alike.style, hidden]
    simp [Cell.narrowed, cellAt, other, alike.style]

end Run.Alike

private theorem lastOver_alike {runs others : List Run} (alike : List.Forall₂ Run.Alike runs others)
    (row column : Nat) :
    Option.Rel Run.Alike (lastOver row column runs) (lastOver row column others) := by
  induction alike with
  | nil => exact .none
  | @cons run other rest later first _ ih =>
    rw [lastOver_cons, lastOver_cons, first.covers row column]
    generalize lastOver row column rest = last, lastOver row column later = otherLast at ih ⊢
    cases other.covers row column with
    | false => exact ih
    | true =>
      cases ih with
      | none => exact .some first
      | some last => exact .some last

namespace Frame

/-- What a cell gives the text of its row. -/
def spoken? (cell : Cell) : Option Char :=
  if cell.isContinuation then none else some cell.character

private theorem isContinuation_narrowed (cell : Cell) :
    cell.narrowed.isContinuation = cell.isContinuation := rfl

private theorem spoken?_narrowed (cell : Cell) : spoken? cell.narrowed = spoken? cell := rfl

theorem rowText_eq_spoken {frame : Frame}
    (full : frame.cells.size = frame.columns * frame.rows) {row : Nat}
    (inRows : row < frame.rows) :
    frame.rowText row = String.ofList (Text.trimEnd ((List.range frame.columns).filterMap
      fun column => ((frame.cell? row column).map Cell.narrowed).bind spoken?)) := by
  have present : ∀ column < frame.columns,
      frame.cell? row column = some ((frame.cell? row column).getD (.blank frame.defaults)) := by
    intro column inColumns
    cases found : frame.cell? row column with
    | some cell => rfl
    | none =>
      have outside := (cell?_eq_none_iff full row column).mp found
      omega
  rw [rowText_eq full inRows present]
  refine congrArg (fun text => String.ofList (Text.trimEnd text)) ?_
  refine List.filterMap_congr fun column member => ?_
  have here := present column (List.mem_range.mp member)
  generalize (frame.cell? row column).getD (.blank frame.defaults) = cell at here ⊢
  rw [here, Option.map_some, Option.bind_some, spoken?_narrowed, spoken?]

private theorem rowText_outside {frame : Frame} {row : Nat} (outside : frame.rows ≤ row) :
    frame.rowText row = "" := by
  rw [rowText, (row?_eq_none_iff row).mpr outside, Option.map_none, Option.getD_none]

/-- Frames of one shape that show alike views. -/
structure OfAlike (frame other : Frame) (first second : BufferView) (palette : Palette) :
    Prop where
  alike : first.Alike second
  shows : frame.Shows first palette
  otherShows : other.Shows second palette
  columns : frame.columns = other.columns
  rows : frame.rows = other.rows
  defaults : frame.defaults = other.defaults
  origin : frame.origin = other.origin

namespace OfAlike

variable {frame other : Frame} {first second : BufferView} {palette : Palette}

/-- The cells of a place are equal, or the last runs over it are hidden and alike. -/
theorem cell_cases (both : OfAlike frame other first second palette) (row column : Nat) :
    frame.cell? row column = other.cell? row column ∨
      ∃ run otherRun, run ∈ lastOver row column (first.runs frame.origin frame.rows) ∧
        run.style.attributes.hidden = true ∧ run.Alike otherRun ∧
        frame.cell? row column =
          some (run.cellAt frame.defaults palette frame.columns column) ∧
        other.cell? row column =
          some (otherRun.cellAt frame.defaults palette frame.columns column) := by
  have otherCell := both.otherShows.cell row
  have otherNone := both.otherShows.noCell row column
  rw [← both.columns, ← both.rows, ← both.defaults, ← both.origin] at otherCell
  rw [← both.columns, ← both.rows] at otherNone
  by_cases outside : frame.rows ≤ row ∨ frame.columns ≤ column
  · left
    rw [otherNone.mpr outside, (both.shows.noCell row column).mpr outside]
  · rw [not_or, Nat.not_le, Nat.not_le] at outside
    obtain ⟨inRows, inColumns⟩ := outside
    have last := lastOver_alike (both.alike.runs frame.origin frame.rows) row column
    rw [both.shows.cell row inRows column inColumns, otherCell inRows column inColumns]
    generalize lastOver row column (first.runs frame.origin frame.rows) = found,
      lastOver row column (second.runs frame.origin frame.rows) = otherFound at last ⊢
    cases last with
    | none => exact .inl rfl
    | @some run otherRun same =>
      cases hidden : run.style.attributes.hidden with
      | false => left; rw [same.eq hidden]
      | true => exact .inr ⟨run, otherRun, rfl, hidden, same, rfl, rfl⟩

private theorem cell_shown (both : OfAlike frame other first second palette) {row column : Nat}
    (shown : ∀ run ∈ lastOver row column (first.runs frame.origin frame.rows),
      run.style.attributes.hidden = false) :
    frame.cell? row column = other.cell? row column := by
  rcases both.cell_cases row column with same | ⟨run, _, last, hidden, -⟩
  · exact same
  · rw [shown run last] at hidden
    cases hidden

private theorem cell_narrowed (both : OfAlike frame other first second palette) (row column : Nat) :
    (frame.cell? row column).map Cell.narrowed =
      (other.cell? row column).map Cell.narrowed := by
  rcases both.cell_cases row column with same | ⟨run, otherRun, -, -, alike, here, there⟩
  · rw [same]
  · rw [here, there, Option.map_some, Option.map_some, alike.narrowed]

theorem rowText (both : OfAlike frame other first second palette) (row : Nat) :
    frame.rowText row = other.rowText row := by
  by_cases inRows : row < frame.rows
  · rw [rowText_eq_spoken both.shows.size inRows,
      rowText_eq_spoken both.otherShows.size (both.rows ▸ inRows), ← both.columns]
    simp only [both.cell_narrowed]
  · have outside := Nat.le_of_not_lt inRows
    rw [rowText_outside outside, rowText_outside (both.rows ▸ outside)]

theorem cursor (both : OfAlike frame other first second palette) :
    frame.cursor = other.cursor := by
  have continued : ∀ row column, (frame.cell? row column).any (·.isContinuation) =
      (other.cell? row column).any (·.isContinuation) := by
    intro row column
    have same := congrArg (Option.any (·.isContinuation)) (both.cell_narrowed row column)
    simpa only [Option.any_map, Function.comp_def, isContinuation_narrowed] using same
  rw [both.shows.cursor, both.otherShows.cursor, both.alike.cursor, both.origin, both.rows,
    both.columns, continued]

theorem frame_alike (both : OfAlike frame other first second palette) : frame.Alike other where
  columns := both.columns
  rows := both.rows
  defaults := both.defaults
  origin := both.origin
  cursor := both.cursor
  rowText := both.rowText
  cell := both.cell_narrowed

end OfAlike

private theorem ofAlike_ofView {first second : BufferView} (alike : first.Alike second)
    (style : DefaultStyle) {columns : Nat} (some : 0 < columns) (rows : Nat) (origin : Int)
    (palette : Palette) :
    OfAlike (ofView first style columns rows origin palette)
      (ofView second style columns rows origin palette) first second palette where
  alike := alike
  shows := ofView_shows first style some origin palette
  otherShows := ofView_shows second style some origin palette
  columns := rfl
  rows := rfl
  defaults := rfl
  origin := congrArg (Scroll.clampOrigin origin) alike.history

end Frame

/-- Frames of alike views are alike, and a cell can be another only where the last run over
its place is hidden. -/
theorem hidden_text_unseen {first second : BufferView} (alike : first.Alike second)
    (style : DefaultStyle) (columns rows : Nat) (origin : Int) (palette : Palette) :
    if columns = 0 ∨ rows = 0 then
      Frame.build (.ok first) style columns rows origin palette =
          .error (.invalidDimensions columns rows) ∧
        Frame.build (.ok second) style columns rows origin palette =
          .error (.invalidDimensions columns rows)
    else
      ∃ frame other, Frame.build (.ok first) style columns rows origin palette = .ok frame ∧
        Frame.build (.ok second) style columns rows origin palette = .ok other ∧
        frame.Alike other ∧
        ∀ row column,
          (∀ run ∈ lastOver row column (first.runs frame.origin rows),
            run.style.attributes.hidden = false) →
          frame.cell? row column = other.cell? row column := by
  unfold Frame.build
  by_cases empty : columns = 0 ∨ rows = 0
  · simp only [if_pos empty, and_self]
  · have both := Frame.ofAlike_ofView alike style (by omega : 0 < columns) rows origin palette
    simp only [if_neg empty]
    exact ⟨_, _, rfl, rfl, both.frame_alike, fun row column => both.cell_shown⟩

def passwordView (text : List Char) : BufferView where
  width := 4
  height := 1
  history := 0
  alternate := false
  cursor := { row := 0, column := 1, visible := true }
  runs _ _ := [⟨0, 0, {}, ['a', 'b', 'c']⟩, ⟨0, 0, { attributes := { hidden := true } }, text⟩]

/-- A wide glyph in place of two letters is told by the width of its cell alone. -/
theorem hidden_text_unseen_password :
    (passwordView ['p', 'w']).Alike (passwordView ['\u115f', continuation]) ∧
      ∃ frame other,
        Frame.build (.ok (passwordView ['p', 'w'])) {} 4 1 0 .xterm = .ok frame ∧
        Frame.build (.ok (passwordView ['\u115f', continuation])) {} 4 1 0 .xterm = .ok other ∧
        frame.rowText 0 = other.rowText 0 ∧ frame.cursor = other.cursor ∧
        frame.cell? 0 2 = other.cell? 0 2 ∧ frame.cell? 0 0 ≠ other.cell? 0 0 := by
  have alike : (passwordView ['p', 'w']).Alike (passwordView ['\u115f', continuation]) := by
    refine ⟨rfl, rfl, fun _ _ => ?_⟩
    refine .cons ⟨rfl, rfl, rfl, rfl, fun _ => rfl⟩ (.cons ⟨rfl, rfl, rfl, rfl, ?_⟩ .nil)
    intro shown
    cases shown
  obtain ⟨frame, other, built, otherBuilt, same, cells⟩ :=
    hidden_text_unseen alike {} 4 1 0 .xterm
  refine ⟨alike, frame, other, built, otherBuilt, same.rowText 0, same.cursor, ?_, ?_⟩
  · refine cells 0 2 fun run last => ?_
    obtain rfl : ⟨0, 0, {}, ['a', 'b', 'c']⟩ = run := Option.some.inj last
    rfl
  · obtain rfl := Except.ok.inj built
    obtain rfl := Except.ok.inj otherBuilt
    decide

end TtyFrame

import Mathlib.Data.List.Basic
import TtyFrame.Proofs.Frame.Reading
import TtyFrame.Proofs.Screen.Printing
import TtyFrame.Proofs.Screen.Window

/-! Which cells of a frame count as right halves of wide glyphs. A frame knows them by their
character, so a glyph that holds the same character in a place of its own is taken for one:
its row loses it, and the cursor leaves it. That is the only thing that goes wrong, and it
happens only to a program that has printed that character. -/

set_option autoImplicit false

namespace TtyFrame.Screen

namespace Glyph

/-- The glyph has a place of its own and holds the character that stands for right halves. -/
def posesAsHalf (glyph : Glyph) : Bool :=
  !glyph.layout.spacer && !glyph.layout.leading && glyph.character = continuation

def takenForHalf (glyph : Glyph) : Bool := glyph.layout.spacer || glyph.posesAsHalf

/-- What the glyph has in a text that does not leave it out. -/
def letter (glyph : Glyph) : Char :=
  if glyph.pen.attributes.hidden || glyph.layout.leading || glyph.character = '\x00' then ' '
  else glyph.character

private theorem takenForHalf_iff (glyph : Glyph) :
    glyph.takenForHalf = true ↔ glyph.shown = continuation := by
  have blank : ' ' ≠ continuation := by decide
  cases spacer : glyph.layout.spacer with
  | true => simp [takenForHalf, shown, spacer]
  | false =>
    cases leading : glyph.layout.leading with
    | true => simp [takenForHalf, posesAsHalf, shown, spacer, leading, blank]
    | false => simp [takenForHalf, posesAsHalf, shown, spacer, leading]

section

variable (glyph : Glyph) (next : Option Glyph) (overrides : Overrides) (palette : Palette)
  (defaults : Paint) (columns column : Nat)

private theorem projected_isContinuation :
    (glyph.projected next overrides palette defaults columns column).isContinuation =
      (glyph.takenForHalf && !glyph.pen.attributes.hidden) := by
  have blank : ' ' ≠ continuation := by decide
  have zero : '\x00' ≠ continuation := by decide
  rw [Bool.eq_iff_iff, Bool.and_eq_true, takenForHalf_iff, Cell.isContinuation,
    decide_eq_true_eq, projected]
  cases hidden : glyph.pen.attributes.hidden with
  | true => simp [blank]
  | false =>
    by_cases empty : glyph.shown = '\x00'
    · simp [empty, blank, zero]
    · simp [empty]

private theorem projected_character
    (kept : (glyph.takenForHalf && !glyph.pen.attributes.hidden) = false) :
    (glyph.projected next overrides palette defaults columns column).character = glyph.letter := by
  simp only [projected, letter]
  cases hidden : glyph.pen.attributes.hidden with
  | true => simp
  | false =>
    have own : glyph.layout.spacer = false := by
      simp_all [takenForHalf]
    cases leading : glyph.layout.leading <;> simp [shown, own, leading]

end

end Glyph

/-- What a row text has of a place, given which glyphs it leaves out. -/
def State.letter? (state : State) (half : Glyph → Bool) (line : Int) (column : Nat) :
    Option Char :=
  match state.glyph? line column with
  | some glyph => if half glyph && !glyph.pen.attributes.hidden then none else some glyph.letter
  | none => some ' '

/-- A frame takes the glyphs of one kind for right halves: the cells of those that are not
hidden are continuations, a row text has the letters of all other places, and the cursor of
the screen leaves them. -/
structure Halves (frame : Frame) (state : State) (half : Glyph → Bool) : Prop where
  cell : ∀ row < frame.rows, ∀ column < frame.columns, ∀ cell ∈ frame.cell? row column,
    cell.attributes.hidden = false →
      (cell.isContinuation = true ↔
        ∃ glyph ∈ state.glyph? (frame.origin + row) column, half glyph = true)
  text : ∀ row < frame.rows, frame.rowText row = String.ofList (Text.trimEnd
    ((List.range frame.columns).filterMap (state.letter? half (frame.origin + row))))
  cursor : ∀ cursor ∈ frame.cursor, cursor.row = state.grid.cursor.line ∧
    cursor.column =
      if ∃ glyph ∈ state.glyph? cursor.row state.grid.cursor.column,
        half glyph = true ∧ glyph.pen.attributes.hidden = false
      then state.grid.cursor.column - 1 else state.grid.cursor.column

/-- Among the glyphs of a place that are not hidden, those of a kind are the ones that hold
the character of a right half. -/
def Tells (half : Glyph → Bool) (place : Option Glyph) : Prop :=
  ∀ glyph ∈ place, glyph.pen.attributes.hidden = false → half glyph = glyph.takenForHalf

section

variable {state : State} {half : Glyph → Bool} {line : Int} {column : Nat}
  (tells : Tells half (state.glyph? line column)) (palette : Palette) (defaults : Paint)
  (columns : Nat)

private theorem projectedCell_hidden (state : State) (line : Int) (column : Nat) :
    (state.projectedCell palette defaults columns line column).attributes.hidden =
      (state.glyph? line column).any (·.pen.attributes.hidden) := by
  unfold State.projectedCell
  cases state.glyph? line column with
  | none => rfl
  | some glyph => rfl

include tells

private theorem projectedCell_isContinuation :
    (state.projectedCell palette defaults columns line column).isContinuation =
      (state.glyph? line column).any fun glyph => half glyph && !glyph.pen.attributes.hidden := by
  unfold State.projectedCell
  cases shown : state.glyph? line column with
  | none => rfl
  | some glyph =>
    have same := tells glyph shown
    rw [glyph.projected_isContinuation]
    cases hidden : glyph.pen.attributes.hidden <;> simp_all

private theorem projectedCell_letter :
    (if (state.projectedCell palette defaults columns line column).isContinuation then none
      else some (state.projectedCell palette defaults columns line column).character) =
      state.letter? half line column := by
  rw [projectedCell_isContinuation tells]
  unfold State.projectedCell State.letter?
  cases shown : state.glyph? line column with
  | none => rfl
  | some glyph =>
    have same := tells glyph shown
    simp only [Option.any_some]
    split
    · rfl
    · next kept =>
      rw [glyph.projected_character]
      cases hidden : glyph.pen.attributes.hidden <;> simp_all

end

section

variable (state : State) (style : DefaultStyle) (columns rows : Nat) (origin : Int)
  (palette : Palette)

theorem cell?_view {row column : Nat} (inRows : row < rows) (inColumns : column < columns) :
    (Frame.ofView state.view style columns rows origin palette).cell? row column =
      some (state.projectedCell palette (style.resolve palette) columns
        ((Frame.ofView state.view style columns rows origin palette).origin + row) column) := by
  rw [Frame.cell?_ofView _ _ _ _ inRows inColumns]
  exact congrArg some (state.findSome?_drawn_runs palette _ columns _ inRows column)

/-- A frame takes for right halves the glyphs that hold the character of one. -/
theorem view_halves {half : Glyph → Bool}
    (tells : ∀ row < rows, ∀ column < columns, Tells half (state.glyph?
      ((Frame.ofView state.view style columns rows origin palette).origin + row) column)) :
    Halves (Frame.ofView state.view style columns rows origin palette) state half := by
  have full : (Frame.ofView state.view style columns rows origin palette).cells.size =
      columns * rows := (size_foldl_writeRun _ _ _ _ _ _).trans Array.size_replicate
  constructor
  · intro row inRows column inColumns cell found unhidden
    rw [cell?_view state style columns rows origin palette inRows inColumns] at found
    obtain rfl := Option.some.inj found
    rw [projectedCell_hidden] at unhidden
    rw [projectedCell_isContinuation (tells row inRows column inColumns)]
    cases shown : state.glyph? _ column with
    | none => simp
    | some glyph => simp_all
  · intro row inRows
    rw [Frame.rowText_eq full inRows fun column inColumns =>
      cell?_view state style columns rows origin palette inRows inColumns]
    refine congrArg (fun letters => String.ofList (Text.trimEnd letters))
      (List.filterMap_congr fun column member => ?_)
    exact projectedCell_letter (tells row inRows column (List.mem_range.mp member)) ..
  · intro cursor drawn
    have live : (Frame.ofView state.view style columns rows origin palette).cursor =
        if (Frame.ofView state.view style columns rows origin palette).origin = 0 then
          state.shownCursor.shown columns rows
            (Frame.ofView state.view style columns rows origin palette).cells
        else none := rfl
    rw [live] at drawn
    split at drawn
    · next bottom =>
      obtain ⟨inRows, inColumns, sameRow, sameColumn⟩ :=
        Cursor.shown_cases drawn fun inRows inColumns => by
          have here := cell?_view state style columns rows origin palette inRows inColumns
          rw [Frame.cell?, if_pos ⟨inRows, inColumns⟩] at here
          exact here
      refine ⟨sameRow, ?_⟩
      rw [sameColumn, sameRow, projectedCell_isContinuation (tells _ inRows _ inColumns), bottom,
        Int.zero_add]
      simp only [Option.any_eq_true, Bool.and_eq_true, Bool.not_eq_true']
      rfl
    · cases drawn

/-- A frame takes exactly the right halves of wide glyphs for such if no glyph in view,
other than hidden ones, poses as one. -/
theorem spacer_halves_iff :
    Halves (Frame.ofView state.view style columns rows origin palette) state (·.layout.spacer) ↔
      ∀ row < rows, ∀ column < columns, ∀ glyph ∈ state.glyph?
        ((Frame.ofView state.view style columns rows origin palette).origin + row) column,
        glyph.pen.attributes.hidden = false → glyph.posesAsHalf = false := by
  constructor
  · intro halves row inRows column inColumns glyph shown unhidden
    rw [← Bool.not_eq_true]
    intro poses
    have taken := view_halves state style columns rows origin palette fun _ _ _ _ _ _ _ => rfl
    have found := cell?_view state style columns rows origin palette inRows inColumns
    have visible := projectedCell_hidden palette (style.resolve palette) columns state
      ((Frame.ofView state.view style columns rows origin palette).origin + row) column
    rw [shown, Option.any_some, unhidden] at visible
    have same := (taken.cell row inRows column inColumns _ found visible).symm.trans
      (halves.cell row inRows column inColumns _ found visible)
    obtain ⟨other, there, spacer⟩ := same.mp ⟨glyph, shown, by simp [Glyph.takenForHalf, poses]⟩
    cases shown.symm.trans there
    simp_all [Glyph.posesAsHalf]
  · intro none
    refine view_halves state style columns rows origin palette ?_
    intro row inRows column inColumns glyph shown unhidden
    rw [Glyph.takenForHalf, none row inRows column inColumns glyph shown unhidden, Bool.or_false]

end

theorem Grid.Written.row? {printed : List Char} {grid : Grid} (written : grid.Written printed)
    {line : Int} {row : Row} (found : grid.row? line = some row) : row.Written printed := by
  unfold Grid.row? at found
  split at found
  · split at found
    · exact written.history row (Array.mem_of_getElem? found)
    · cases found
  · exact written.screen row (Array.mem_of_getElem? found)

theorem State.Written.glyph? {printed : List Char} {state : State}
    (written : state.Written printed) {line : Int} {column : Nat} {glyph : Glyph}
    (shown : state.glyph? line column = some glyph) : glyph.Written printed := by
  unfold State.glyph? at shown
  split at shown
  · obtain ⟨row, found, there⟩ := Option.bind_eq_some_iff.mp shown
    exact written.grid.row? found glyph (Array.mem_of_getElem? there)
  · cases shown

theorem Glyph.Written.poses {printed : List Char} {glyph : Glyph}
    (written : glyph.Written printed) (poses : glyph.posesAsHalf = true) :
    continuation ∈ printed := by
  have same : glyph.character = continuation := by
    simp_all [Glyph.posesAsHalf]
  have member := written.character
  rw [same] at member
  simpa [show continuation ≠ ' ' by decide, show continuation ≠ '\t' by decide,
    show continuation ≠ 'E' by decide] using member

/-- A frame takes for right halves the glyphs that hold the character of one. These are the
right halves of wide glyphs exactly if no glyph in view, other than hidden ones, poses as
one, and none does unless the program has printed that character. What the right halves
hold was not printed. -/
theorem view_halves_iff {output : List UInt8} {stream : Stream} {state : State}
    (reached : Reached output stream state) (style : DefaultStyle) {columns rows : Nat}
    (someColumns : 0 < columns) (someRows : 0 < rows) (origin : Int) (palette : Palette) :
    ∃ frame, Frame.build (.ok state.view) style columns rows origin palette = .ok frame ∧
      Halves frame state Glyph.takenForHalf ∧
      (Halves frame state (·.layout.spacer) ↔
        ∀ row < rows, ∀ column < columns,
          ∀ glyph ∈ state.glyph? (frame.origin + row) column,
            glyph.pen.attributes.hidden = false → glyph.posesAsHalf = false) ∧
      ∀ line column, ∀ glyph ∈ state.glyph? line column,
        (glyph.posesAsHalf = true → continuation ∈ printedBy output) ∧
        (glyph.layout.spacer = true → glyph.character ∈ [' ', '\t']) := by
  have notEmpty : ¬ (columns = 0 ∨ rows = 0) := by omega
  refine ⟨_, by rw [Frame.build, if_neg notEmpty], ?_, ?_, ?_⟩
  · exact view_halves state style columns rows origin palette fun _ _ _ _ _ _ _ => rfl
  · exact spacer_halves_iff state style columns rows origin palette
  · intro line column glyph shown
    have written : glyph.Written (printedBy output) := reached.taken.1.state.glyph? shown
    exact ⟨written.poses, fun spacer => written.filler (.inl spacer)⟩

/-- A screen of four columns after some output, and what is kept of the output. -/
def narrowAfter (output : List UInt8) : Stream × State × List Reply :=
  takeBytes {} (.blank 4 1 0 {}) output

private theorem narrowAfter_reached (output : List UInt8) :
    Reached output (narrowAfter output).1 (narrowAfter output).2.1 :=
  (Reached.blank 4 1 0 {}).output output

/-- A wide character, the letter a, and the cursor put back on the right half of the first. -/
def wideOutput : List UInt8 := [0xE4, 0xBD, 0xA0, 0x61, 0x08, 0x08]

theorem view_halves_iff_wide :
    Reached wideOutput (narrowAfter wideOutput).1 (narrowAfter wideOutput).2.1 ∧
      continuation ∉ printedBy wideOutput ∧
      ∃ frame, Frame.build (.ok (narrowAfter wideOutput).2.1.view) {} 4 1 0 .xterm = .ok frame ∧
        Halves frame (narrowAfter wideOutput).2.1 (·.layout.spacer) := by
  have unprinted : continuation ∉ printedBy wideOutput := by decide +kernel
  obtain ⟨frame, built, -, spacers, glyphs⟩ := view_halves_iff (narrowAfter_reached wideOutput) {}
    (by decide : 0 < 4) (by decide : 0 < 1) 0 .xterm
  refine ⟨narrowAfter_reached wideOutput, unprinted, frame, built, spacers.mpr ?_⟩
  intro row _ column _ glyph shown _
  rw [← Bool.not_eq_true]
  exact fun poses => unprinted ((glyphs _ column glyph shown).1 poses)

private theorem columnWidth_continuation : Text.columnWidth? continuation = some 1 := by
  -- The tables are long, and lists are faster to walk than arrays.
  have extending : Text.isExtending continuation = false := by
    rw [Text.isExtending, Text.covers, ← Array.any_toList]
    decide +kernel
  have wide : Text.isWide continuation = false := by
    rw [Text.isWide, Text.covers, ← Array.any_toList]
    decide +kernel
  rw [Text.columnWidth?, Text.isZeroWidth, extending, wide]
  decide +kernel

theorem State.print_narrow {c : Char} (narrow : Text.columnWidth? c = some 1) (state : State) :
    state.print c =
      (((if state.grid.cursor.pendingWrap then state.wrapLine else state).shiftRight 1).putGlyph c
        {}).advance := by
  rw [print, narrow]
  rfl

theorem takeBytes_continuation {stream : Stream} (ground : stream.lexer = {}) (state : State) :
    (takeBytes stream state [0xEE, 0x80, 0x80]).2.1 = state.print continuation := by
  obtain ⟨lexer, last⟩ := stream
  obtain rfl : lexer = {} := ground
  rfl

/-- A program that prints the letter a and the character that stands for right halves. -/
theorem printed_marker_left_out :
    ¬ ∀ (output : List UInt8) (stream : Stream) (state : State), Reached output stream state →
      ∀ (style : DefaultStyle) (columns rows : Nat) (origin : Int) (palette : Palette)
        (frame : Frame),
        Frame.build (.ok state.view) style columns rows origin palette = .ok frame →
        Halves frame state (·.layout.spacer) := by
  intro claim
  have reached := (narrowAfter_reached [0x61]).output [0xEE, 0x80, 0x80]
  rw [takeBytes_continuation rfl, State.print_narrow columnWidth_continuation] at reached
  have halves := claim _ _ _ reached {} 4 1 0 .xterm _ rfl
  have none := (spacer_halves_iff _ {} 4 1 0 .xterm).mp halves 0 (by decide) 1 (by decide)
    { character := continuation } (by decide +kernel) rfl
  revert none
  decide

end TtyFrame.Screen

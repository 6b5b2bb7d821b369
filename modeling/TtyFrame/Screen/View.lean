import TtyFrame.Screen.State

/-!
# The screen as a buffer

Groups the cells of each line into runs of one style. Colours that a program has set
come out as such, and all others stay indexed, so that the palette applies.
-/

set_option autoImplicit false

namespace TtyFrame.Screen

/-- The character that a cell shows to a view: the right half of a wide glyph is a
continuation, and the blank before one that did not fit is a space. -/
def Glyph.shown (glyph : Glyph) : Char :=
  if glyph.layout.spacer then continuation
  else if glyph.layout.leading then ' '
  else glyph.character

def Glyph.style (glyph : Glyph) (overrides : Overrides) : TextStyle :=
  { foreground := overrides.resolve glyph.pen.foreground
    background := overrides.resolve glyph.pen.background
    attributes := glyph.pen.attributes }

/-- Groups cells from a column on into runs; `style` and `before` are those of the run
that is under way, its characters last first. -/
def groupFrom (overrides : Overrides) (row start : Nat) (style : TextStyle)
    (before : List Char) : List Glyph → List Run
  | [] => [⟨row, start, style, before.reverse⟩]
  | glyph :: rest =>
    let next := glyph.style overrides
    if next = style then groupFrom overrides row start style (glyph.shown :: before) rest
    else
      ⟨row, start, style, before.reverse⟩ ::
        groupFrom overrides row (start + before.length) next [glyph.shown] rest

def groupRuns (overrides : Overrides) (row : Nat) : List Glyph → List Run
  | [] => []
  | glyph :: rest => groupFrom overrides row 0 (glyph.style overrides) [glyph.shown] rest

def PointerShape.drawn : PointerShape → CursorShape
  | .underline => .underline
  | .beam => .bar
  | .block | .hollow | .hidden => .block

namespace State

/-- The runs of the line in a row of a window; none where there is no line. -/
def rowRuns (state : State) (origin : Int) (row : Nat) : List Run :=
  match state.grid.row? (origin + row) with
  | some line => groupRuns state.overrides row line.cells.toList
  | none => []

/-- The runs of a window, row by row. Rows above the history and below the screen have
none, so they are not visited. -/
def runs (state : State) (origin : Int) (rows : Nat) : List Run :=
  let first := (-(state.grid.history.size : Int) - origin).toNat
  let stop := min rows ((state.lines : Int) - origin).toNat
  (List.range' first (stop - first)).flatMap (state.rowRuns origin)

def shownCursor (state : State) : Cursor :=
  let style := state.pointerStyle
  { row := state.grid.cursor.line
    column := state.grid.cursor.column
    visible := state.modes.showCursor && style.shape ≠ .hidden
    shape := style.shape.drawn
    blinking := style.blinking }

def view (state : State) : BufferView :=
  { width := state.columns
    height := state.lines
    history := state.grid.history.size
    alternate := state.modes.alternate
    cursor := state.shownCursor
    runs := state.runs }

end State

end TtyFrame.Screen

import TtyFrame.Frame
import TtyFrame.Word

/-!
# Frames in machine words

A frame as it is built with machine words, where a sum or a product may not fit, an index may
lie outside, and the cells may be more than an object can hold.
-/

set_option autoImplicit false

namespace TtyFrame

/-- The bytes that a cell takes. -/
def Cell.width : Nat := 12

/-- A locked buffer whose walk over a window counts in machine numbers. -/
structure CountedView where
  history : Nat
  cursor : Cursor
  walk : Int → Nat → Except Trap (List Run)

/-- A buffer whose walks all come to their end. -/
def BufferView.counted (view : BufferView) : CountedView where
  history := view.history
  cursor := view.cursor
  walk origin rows := .ok (view.runs origin rows)

namespace Word

/-- The negative of a number of 32 bits. -/
def negate (value : Int) : Except Trap Int :=
  if Scroll.saturate (-value) = -value then .ok (-value) else .error .overflow

def get (cells : Array Cell) (place : Nat) : Except Trap Cell :=
  match cells[place]? with
  | some cell => .ok cell
  | none => .error .outOfBounds

def set (cells : Array Cell) (place : Nat) (cell : Cell) : Except Trap (Array Cell) :=
  if place < cells.size then .ok (cells.setIfInBounds place cell) else .error .outOfBounds

def clampOrigin (origin : Int) (history : Nat) : Except Trap Int := do
  let oldest ← negate (min history Scroll.maxReach : Nat)
  return max oldest (min origin 0)

/-- Writes what is left of the text of a run, from the character at an index on. -/
def writeText (run : Run) (defaults : Paint) (palette : Palette) (columns start : Nat) :
    Nat → List Char → Array Cell → Except Trap (Array Cell)
  | _, [], cells => return cells
  | index, raw :: rest, cells => do
    let column ← add run.column index
    if columns ≤ column then return cells
    else do
      let next ← add index 1
      let last ← sub columns 1
      let place ← add start column
      let written ← set cells place
        { character := shownCharacter run.style.attributes.hidden raw
          paint := run.style.resolve defaults palette
          attributes := .ofAttributes run.style.attributes
          doubleWidth := raw ≠ continuation && Text.columnWidth? raw = some 2 &&
            (run.text[next]? = some continuation || column = last) }
      writeText run defaults palette columns start next rest written

def writeRun (columns rows : Nat) (defaults : Paint) (palette : Palette)
    (cells : Array Cell) (run : Run) : Except Trap (Array Cell) :=
  if rows ≤ run.row then return cells
  else do
    let start ← mul run.row columns
    writeText run defaults palette columns start 0 run.text cells

def shownCursor (cursor : Cursor) (columns rows : Nat) (cells : Array Cell) :
    Except Trap (Option Cursor) :=
  if !cursor.visible || rows ≤ cursor.row || columns ≤ cursor.column then return none
  else do
    let start ← mul cursor.row columns
    let place ← add start cursor.column
    let cell ← get cells place
    if cell.isContinuation && 0 < cursor.column then do
      let column ← sub cursor.column 1
      return some { cursor with column }
    else return some cursor

/-- Builds a frame as `Frame.build` does, with machine words for all sizes and places. Room is
made for its cells, each of so many bytes, before the buffer is looked at. -/
def buildCounted (width : Nat) (buffer : Except LockError CountedView) (style : DefaultStyle)
    (columns rows : Nat) (origin : Int) (palette : Palette) :
    Except Trap (Except RenderError Frame) :=
  if columns = 0 ∨ rows = 0 then return .error (.invalidDimensions columns rows)
  else do
    let defaults := style.resolve palette
    let count ← mul columns rows
    reserve count width
    match buffer with
    | .error cause => return .error (.lock cause)
    | .ok view => do
      let origin ← clampOrigin origin view.history
      let runs ← view.walk origin rows
      let cells ← runs.foldlM (writeRun columns rows defaults palette)
        (Array.replicate count (.blank defaults))
      let cursor ← if origin = 0 then shownCursor view.cursor columns rows cells else pure none
      return .ok { columns, rows, defaults, cells, origin, cursor }

/-- Builds a frame of cells that take no room, so that only their number has to fit. -/
def build (buffer : Except LockError BufferView) (style : DefaultStyle)
    (columns rows : Nat) (origin : Int) (palette : Palette) :
    Except Trap (Except RenderError Frame) :=
  buildCounted 0 (buffer.map BufferView.counted) style columns rows origin palette

end Word

end TtyFrame

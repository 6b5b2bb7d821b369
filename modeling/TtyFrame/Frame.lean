import TtyFrame.Buffer
import TtyFrame.Scroll
import TtyFrame.Text.Width

/-!
# Frames

A frame is a window on a buffer with every cell resolved to a character and painted
colours. It is built in one walk over the runs of the window.
-/

set_option autoImplicit false

namespace TtyFrame

/-- The attributes that a cell is drawn with; inverse has gone into its colours. -/
structure CellAttributes where
  bold : Bool := false
  italic : Bool := false
  underline : Bool := false
  dim : Bool := false
  hidden : Bool := false
deriving DecidableEq, Repr

namespace CellAttributes

def ofAttributes (a : Attributes) : CellAttributes :=
  ⟨a.bold, a.italic, a.underline, a.dim, a.hidden⟩

/-- The bit set of the attributes: bold 1, italic 2, underline 4, dim 8, hidden 16. -/
def bits (a : CellAttributes) : Nat :=
  a.bold.toNat + 2 * a.italic.toNat + 4 * a.underline.toNat + 8 * a.dim.toNat +
    16 * a.hidden.toNat

end CellAttributes

structure Cell where
  /-- The glyph, or the continuation character for the right half of a wide one. -/
  character : Char
  paint : Paint
  attributes : CellAttributes := {}
  /-- The glyph covers the next cell, too. -/
  doubleWidth : Bool := false
deriving DecidableEq, Repr

namespace Cell

def blank (defaults : Paint) : Cell := ⟨' ', defaults, {}, false⟩

def isContinuation (cell : Cell) : Bool := cell.character = continuation

end Cell

structure Frame where
  columns : Nat
  rows : Nat
  defaults : Paint
  /-- The cells, row by row. -/
  cells : Array Cell
  cursor : Option Cursor
  /-- The buffer line in the top row. -/
  origin : Int
deriving DecidableEq, Repr

inductive RenderError where
  | invalidDimensions (columns rows : Nat)
  | lock (cause : LockError)
deriving DecidableEq, Repr

def RenderError.message : RenderError → String
  | .invalidDimensions columns rows =>
    "invalid snapshot size " ++ toString columns ++ "x" ++ toString rows
  | .lock cause => cause.message

/-- A glyph is wide if it takes exactly two columns and has room for both: the cell of
its right half after it, or the edge of the frame. -/
def isDoubleWidth (columns column : Nat) (raw : Char) (rest : List Char) : Bool :=
  raw ≠ continuation && Text.columnWidth? raw = some 2 &&
    (rest.head? = some continuation || column + 1 = columns)

/-- The character that is drawn: hidden text and cells never written are blank. -/
def shownCharacter (hidden : Bool) (raw : Char) : Char :=
  if hidden || raw = '\x00' then ' ' else raw

def Run.cell (run : Run) (defaults : Paint) (palette : Palette) (columns column : Nat)
    (raw : Char) (rest : List Char) : Cell :=
  { character := shownCharacter run.style.attributes.hidden raw
    paint := run.style.resolve defaults palette
    attributes := .ofAttributes run.style.attributes
    doubleWidth := isDoubleWidth columns column raw rest }

/-- Writes characters next to each other until the edge of the frame. -/
def writeText (columns start : Nat) (cellOf : Nat → Char → List Char → Cell) :
    Nat → List Char → Array Cell → Array Cell
  | _, [], cells => cells
  | column, raw :: rest, cells =>
    if columns ≤ column then cells
    else
      writeText columns start cellOf (column + 1) rest
        (cells.setIfInBounds (start + column) (cellOf column raw rest))

/-- Writes a run; one below the frame is left out. -/
def writeRun (columns rows : Nat) (defaults : Paint) (palette : Palette)
    (cells : Array Cell) (run : Run) : Array Cell :=
  if rows ≤ run.row then cells
  else
    writeText columns (run.row * columns) (run.cell defaults palette columns) run.column
      run.text cells

/-- The cursor as it is drawn, given whether its cell is a continuation: one outside the
frame is not drawn, and one on the right half of a glyph is drawn over the glyph. -/
def Cursor.shown (cursor : Cursor) (columns rows : Nat) (cells : Array Cell) :
    Option Cursor :=
  if !cursor.visible || rows ≤ cursor.row || columns ≤ cursor.column then none
  else
    match cells[cursor.row * columns + cursor.column]? with
    | some cell =>
      if cell.isContinuation && 0 < cursor.column then
        some { cursor with column := cursor.column - 1 }
      else some cursor
    | none => some cursor

namespace Frame

/-- The frame of a locked buffer, with a scroll origin kept within the history. -/
def ofView (view : BufferView) (style : DefaultStyle) (columns rows : Nat) (origin : Int)
    (palette : Palette) : Frame :=
  let defaults := style.resolve palette
  let origin := Scroll.clampOrigin origin view.history
  let cells := (view.runs origin rows).foldl (writeRun columns rows defaults palette)
    (Array.replicate (columns * rows) (.blank defaults))
  { columns, rows, defaults, cells, origin
    cursor := if origin = 0 then view.cursor.shown columns rows cells else none }

/-- Builds a frame. It needs at least one cell, and then the lock of the buffer. -/
def build (buffer : Except LockError BufferView) (style : DefaultStyle)
    (columns rows : Nat) (origin : Int) (palette : Palette) : Except RenderError Frame :=
  if columns = 0 ∨ rows = 0 then .error (.invalidDimensions columns rows)
  else
    match buffer with
    | .error cause => .error (.lock cause)
    | .ok view => .ok (ofView view style columns rows origin palette)

def cell? (frame : Frame) (row column : Nat) : Option Cell :=
  if row < frame.rows ∧ column < frame.columns then
    frame.cells[row * frame.columns + column]?
  else none

def row? (frame : Frame) (row : Nat) : Option (Array Cell) :=
  if row < frame.rows then
    some (frame.cells.extract (row * frame.columns) ((row + 1) * frame.columns))
  else none

/-- A number of pieces of one size, one after the other from a start on. -/
def pieces (size : Nat) (cells : Array Cell) : Nat → Nat → List (Array Cell)
  | 0, _ => []
  | count + 1, start =>
    cells.extract start (start + size) :: pieces size cells count (start + size)

/-- The cells cut into rows; a rest that is shorter than a row is left out. -/
def toRows (frame : Frame) : List (Array Cell) :=
  pieces frame.columns frame.cells (frame.cells.size / frame.columns) 0

/-- The text of some cells without continuations and trailing blanks. -/
def textOf (cells : Array Cell) : String :=
  String.ofList (Text.trimEnd
    ((cells.toList.filter fun cell => !cell.isContinuation).map (·.character)))

def rowText (frame : Frame) (row : Nat) : String :=
  ((frame.row? row).map textOf).getD ""

end Frame

end TtyFrame

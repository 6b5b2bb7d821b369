import TtyFrame.Screen.Row

/-!
# The screen grid

The rows that are on the screen, the rows that have left it at the top, and the cursor
that writes.
-/

set_option autoImplicit false

namespace TtyFrame.Screen

structure GridCursor where
  line : Nat := 0
  column : Nat := 0
  pen : Pen := {}
  /-- The last column has been written, and the next character goes to the next line. -/
  pendingWrap : Bool := false
deriving DecidableEq, Repr, Inhabited

/-- Lines of the screen from `start` up to, but not including, `stop`. -/
structure Region where
  start : Nat
  stop : Nat
deriving DecidableEq, Repr

def Region.size (region : Region) : Nat := region.stop - region.start

def Region.contains (region : Region) (line : Nat) : Bool :=
  region.start ≤ line && line < region.stop

structure Grid where
  columns : Nat
  lines : Nat
  /-- The most rows of history that are kept. -/
  limit : Nat
  /-- The rows that have left the screen, oldest first. -/
  history : Array Row := #[]
  /-- The rows on the screen, from the top. -/
  screen : Array Row
  cursor : GridCursor := {}
  saved : GridCursor := {}
deriving DecidableEq, Repr, Inhabited

namespace Grid

def blank (columns lines limit : Nat) : Grid :=
  { columns, lines, limit, screen := Array.replicate lines (.blank columns) }

/-- The row of a line; negative lines are history, the newest at -1. -/
def row? (grid : Grid) (line : Int) : Option Row :=
  if line < 0 then
    if (-line).toNat ≤ grid.history.size then grid.history[grid.history.size - (-line).toNat]?
    else none
  else grid.screen[line.toNat]?

def cursorRow (grid : Grid) : Row := grid.screen.getD grid.cursor.line (.blank grid.columns)

def lastColumn (grid : Grid) : Nat := grid.columns - 1

/-- The background that erased places take. -/
def background (grid : Grid) : CellColor := grid.cursor.pen.background

def modifyRow (grid : Grid) (line : Nat) (change : Row → Row) : Grid :=
  { grid with screen := grid.screen.modify line change }

def modifyCursorRow (grid : Grid) (change : Row → Row) : Grid :=
  grid.modifyRow grid.cursor.line change

/-- Changes the glyph at a line, which may be in the history, and a column. -/
def modifyGlyph (grid : Grid) (line : Int) (column : Nat) (change : Glyph → Glyph) : Grid :=
  if line < 0 then
    { grid with
      history := grid.history.modify (grid.history.size - (-line).toNat) (·.modify column change) }
  else grid.modifyRow line.toNat (·.modify column change)

def resetLines (grid : Grid) (region : Region) : Grid :=
  { grid with
    screen := grid.screen.mapIdx fun line row =>
      if region.contains line then row.reset grid.background else row }

def resetScreen (grid : Grid) : Grid := grid.resetLines ⟨0, grid.lines⟩

/-- The newest rows of history, as many as are kept. -/
def trimHistory (limit : Nat) (history : Array Row) : Array Row :=
  if history.size ≤ limit then history else history.extract (history.size - limit) history.size

/-- Rows that come in blank at the bottom while rows go into the history: new ones while
the history has room for more, and then the oldest rows over again. -/
def incoming (grid : Grid) (count : Nat) : Array Row :=
  let fresh := min count (grid.limit - grid.history.size)
  let old := count - fresh
  let rows := Array.replicate fresh (.blank grid.columns) ++ grid.history.extract 0 old ++
    grid.screen.extract 0 (old - grid.history.size)
  rows.map (·.reset grid.background)

/-- Scrolls a region up. Rows that leave the screen at the top go into the history; rows
below the region stay. -/
def scrollUp (grid : Grid) (region : Region) (count : Nat) : Grid :=
  if region.start = 0 then
    let count := min count region.size
    { grid with
      history := trimHistory grid.limit (grid.history ++ grid.screen.extract 0 count)
      screen := grid.screen.extract count region.stop ++ grid.incoming count ++
        grid.screen.extract region.stop grid.screen.size }
  else if region.size ≤ count then grid.resetLines region
  else
    let leaving := grid.screen.extract region.start (region.start + count)
    { grid with
      screen := grid.screen.extract 0 region.start ++
        grid.screen.extract (region.start + count) region.stop ++
        leaving.map (·.reset grid.background) ++
        grid.screen.extract region.stop grid.screen.size }

/-- Scrolls a region down. Rows that leave it at the bottom are gone. -/
def scrollDown (grid : Grid) (region : Region) (count : Nat) : Grid :=
  if region.size ≤ count then grid.resetLines region
  else
    let leaving := grid.screen.extract (region.stop - count) region.stop
    { grid with
      screen := grid.screen.extract 0 region.start ++ leaving.map (·.reset grid.background) ++
        grid.screen.extract region.start (region.stop - count) ++
        grid.screen.extract region.stop grid.screen.size }

/-- The number of lines down to the last that shows something. Without any history the
first line always counts. -/
def contentLines (grid : Grid) : Nat :=
  let shown := grid.screen.toList.reverse.dropWhile Row.isClear
  if grid.history.isEmpty then max shown.length 1 else shown.length

/-- Moves what the screen shows into the history and blanks the screen. -/
def clearViewport (grid : Grid) : Grid :=
  let count := grid.contentLines
  (grid.scrollUp ⟨0, grid.lines⟩ count).resetLines ⟨0, grid.lines - count⟩

def clearHistory (grid : Grid) : Grid := { grid with history := #[] }

/-- The grid as it was before the first output. -/
def reset (grid : Grid) : Grid :=
  { grid with history := #[], cursor := {}, saved := {} }.resetScreen

end Grid

end TtyFrame.Screen

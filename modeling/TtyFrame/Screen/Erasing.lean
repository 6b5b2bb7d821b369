import TtyFrame.Screen.State

/-!
# Erasing on the screen

Erased places keep the background of the pen and nothing else.
-/

set_option autoImplicit false

namespace TtyFrame.Screen.Grid

def eraseColumns (grid : Grid) (start stop : Nat) : Grid :=
  grid.modifyCursorRow (·.fill start stop (.erased grid.background))

/-- Erases to the right of the cursor; nothing if the line is full. -/
def eraseRight (grid : Grid) : Grid :=
  if grid.cursor.pendingWrap then grid
  else grid.eraseColumns grid.cursor.column grid.columns

/-- Erases to the left of the cursor and under it. -/
def eraseLeft (grid : Grid) : Grid :=
  grid.eraseColumns 0 (min (grid.cursor.column + 1) grid.columns)

def eraseRow (grid : Grid) : Grid := grid.eraseColumns 0 grid.columns

def eraseCount (grid : Grid) (count : Nat) : Grid :=
  grid.eraseColumns grid.cursor.column (min (grid.cursor.column + count) grid.columns)

def eraseBelow (grid : Grid) : Grid :=
  (grid.eraseColumns grid.cursor.column grid.columns).resetLines
    ⟨grid.cursor.line + 1, grid.lines⟩

/-- Erases from the start of the screen to the cursor. The lines above are erased only if
there is more than one of them. -/
def eraseAbove (grid : Grid) : Grid :=
  (if 1 < grid.cursor.line then grid.resetLines ⟨0, grid.cursor.line⟩ else grid).eraseLeft

/-- Deletes places at the cursor; those to the right of them move up. -/
def deleteCount (grid : Grid) (count : Nat) : Grid :=
  let count := min count grid.columns
  let start := grid.cursor.column
  grid.modifyCursorRow fun row => row.rebuild fun column =>
    if grid.columns - count ≤ column then .erased grid.background
    else if column < start then row.get column
    else row.get (column + count)

/-- Puts erased places in at the cursor; those to the right move on. -/
def insertCount (grid : Grid) (count : Nat) : Grid :=
  let start := grid.cursor.column
  let count := min count (grid.columns - start)
  grid.modifyCursorRow fun row => row.rebuild fun column =>
    if column < start then row.get column
    else if column < start + count then .erased grid.background
    else row.get (column - count)

/-- Fills the screen with the letter E. -/
def alignmentTest (grid : Grid) : Grid :=
  { grid with
    screen := grid.screen.map (·.rebuild fun _ => { character := 'E' }) }

end TtyFrame.Screen.Grid

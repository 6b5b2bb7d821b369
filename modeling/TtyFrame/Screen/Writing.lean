import TtyFrame.Screen.State
import TtyFrame.Text.Width

/-!
# Writing on the screen

Characters, line feeds and the moves of the cursor.
-/

set_option autoImplicit false

namespace TtyFrame.Screen.State

def scrollUpFrom (state : State) (start count : Nat) : State :=
  state.onGrid (·.scrollUp ⟨start, state.region.stop⟩ (min count state.region.size))

def scrollDownFrom (state : State) (start count : Nat) : State :=
  let count := min (min count state.region.size) (state.region.stop - start)
  state.onGrid (·.scrollDown ⟨start, state.region.stop⟩ count)

/-- Goes to the next line; at the end of the region the region scrolls. -/
def lineFeed (state : State) : State :=
  let next := state.grid.cursor.line + 1
  if next = state.region.stop then state.scrollUpFrom state.region.start 1
  else if next < state.lines then state.onCursor ({ · with line := next })
  else state

def carriageReturn (state : State) : State :=
  state.onCursor ({ · with column := 0, pendingWrap := false })

/-- Goes on in the next line, because the line is full. -/
def wrapLine (state : State) : State :=
  if !state.modes.wrap then state
  else
    let marked := state.onGrid fun grid =>
      grid.modifyCursorRow (·.modify grid.cursor.column (·.setWraps true))
    let line := state.grid.cursor.line
    let moved :=
      if state.region.stop ≤ line + 1 then marked.lineFeed
      else marked.onCursor ({ · with line := line + 1 })
    moved.carriageReturn

/-- Undoes the other half of a wide glyph that is about to be written over. -/
def clearHalf (grid : Grid) : Grid :=
  let cursor := grid.cursor
  let old := grid.cursorRow.get cursor.column
  if !old.layout.wide && !old.layout.spacer then grid
  else
    let grid :=
      if old.layout.wide && cursor.column < grid.lastColumn then
        grid.modifyCursorRow (·.modify (cursor.column + 1) Glyph.clearSpacer)
      else if 0 < cursor.column then
        grid.modifyCursorRow (·.modify (cursor.column - 1) Glyph.clearWide)
      else grid
    if cursor.column ≤ 1 && (0 < cursor.line || !grid.history.isEmpty) then
      grid.modifyGlyph ((cursor.line : Int) - 1) grid.lastColumn Glyph.clearLeading
    else grid

/-- Writes a character at the cursor, which stays. -/
def putGlyph (state : State) (c : Char) (layout : Layout) : State :=
  state.onGrid fun grid =>
    let glyph : Glyph := { character := c, pen := grid.cursor.pen, layout }
    (clearHalf grid).modifyCursorRow (·.modify grid.cursor.column fun _ => glyph)

/-- Attaches a zero-width character to the character before the cursor. -/
def attachMark (state : State) : State :=
  state.onGrid fun grid =>
    let cursor := grid.cursor
    let column := if cursor.pendingWrap then cursor.column else cursor.column - 1
    let column := if (grid.cursorRow.get column).layout.spacer then column - 1 else column
    grid.modifyCursorRow (·.modify column ({ · with marked := true }))

/-- Makes room for a character by pushing those at the cursor to the right. -/
def shiftRight (state : State) (width : Nat) : State :=
  let column := state.grid.cursor.column
  if state.modes.insert && column + width < state.columns then
    let sources := (List.range (state.columns - width - column)).reverse
    state.onGrid (·.modifyCursorRow fun row =>
      ⟨sources.foldl (fun cells offset =>
        cells.swapIfInBounds (column + offset + width) (column + offset)) row.cells, row.size⟩)
  else state

/-- Moves on by one column, or waits at the last one. -/
def advance (state : State) : State :=
  state.onCursor fun cursor =>
    if cursor.column + 1 < state.columns then { cursor with column := cursor.column + 1 }
    else { cursor with pendingWrap := true }

/-- Writes a wide character where two columns are left. -/
def putWide (state : State) (c : Char) : State :=
  let left := state.putGlyph c { wide := true }
  let right := left.onCursor fun cursor => { cursor with column := cursor.column + 1 }
  (right.putGlyph ' ' { spacer := true }).advance

/-- Writes a wide character; one that does not fit leaves a blank and goes to the next
line. -/
def printWide (state : State) (c : Char) : State :=
  if state.grid.cursor.column + 1 < state.columns then state.putWide c
  else if state.modes.wrap then ((state.putGlyph ' ' { leading := true }).wrapLine).putWide c
  else state.onCursor ({ · with pendingWrap := true })

def print (state : State) (c : Char) : State :=
  match Text.columnWidth? c with
  | none => state
  | some 0 => state.attachMark
  | some width =>
    let state := if state.grid.cursor.pendingWrap then state.wrapLine else state
    let state := state.shiftRight width
    if width = 1 then (state.putGlyph c {}).advance else state.printWide c

/-- Goes to a place; lines count from the region in origin mode. -/
def goto (state : State) (line : Int) (column : Nat) : State :=
  let offset : Nat := if state.modes.origin then state.region.start else 0
  let last : Int := if state.modes.origin then (state.region.stop : Int) - 1 else state.lines - 1
  let line := max (min (line + offset) last) 0
  state.onCursor fun cursor =>
    { cursor with
      line := line.toNat, column := min column state.grid.lastColumn, pendingWrap := false }

def gotoColumn (state : State) (column : Nat) : State :=
  state.goto state.grid.cursor.line column

def moveLines (state : State) (delta : Int) : State :=
  state.goto (state.grid.cursor.line + delta) state.grid.cursor.column

def moveRight (state : State) (count : Nat) : State :=
  state.onCursor fun cursor =>
    { cursor with
      column := min (cursor.column + count) state.grid.lastColumn, pendingWrap := false }

def moveLeft (state : State) (count : Nat) : State :=
  state.onCursor fun cursor =>
    { cursor with column := cursor.column - count, pendingWrap := false }

def backspace (state : State) : State :=
  if 0 < state.grid.cursor.column then state.moveLeft 1 else state

/-- The next tab stop to the right of a column, or the last column. -/
def nextTab (state : State) (column : Nat) : Nat :=
  let stops := (List.range state.columns).filter fun stop =>
    column < stop && state.tabs.getD stop false
  stops.headD state.grid.lastColumn

/-- The next tab stop to the left of a column, or the column itself. -/
def previousTab (state : State) (column : Nat) : Nat :=
  let stops := (List.range column).filter fun stop => state.tabs.getD stop false
  stops.getLastD column

/-- Goes to the next tab stop and leaves a tab in a blank. Behind the last column a tab
goes to the next line. -/
def tab (state : State) : State :=
  if state.grid.cursor.pendingWrap then state.wrapLine
  else
    let marked := state.onGrid fun grid =>
      grid.modifyCursorRow (·.modify grid.cursor.column fun glyph =>
        if glyph.character = ' ' then { glyph with character := '\t' } else glyph)
    marked.onCursor fun cursor => { cursor with column := state.nextTab cursor.column }

def moveTabs (state : State) (next : State → Nat → Nat) (count : Nat) : State :=
  state.onCursor fun cursor =>
    { cursor with column := count.repeat (next state) cursor.column }

/-- Goes to the line above; at the start of the region the region scrolls. -/
def reverseIndex (state : State) : State :=
  if state.grid.cursor.line = state.region.start then
    state.scrollDownFrom state.region.start 1
  else state.onCursor fun cursor => { cursor with line := cursor.line - 1 }

/-- Sets the lines that scroll and goes home. Lines count from 1; a region of no lines is
refused. -/
def setRegion (state : State) (top : Nat) (bottom : Option Nat) : State :=
  let bottom := bottom.getD state.lines
  if bottom ≤ top then state
  else
    { state with region := ⟨min (top - 1) state.lines, min bottom state.lines⟩ }.goto 0 0

def saveCursor (state : State) : State :=
  state.onGrid fun grid => { grid with saved := grid.cursor }

def restoreCursor (state : State) : State :=
  state.onGrid fun grid => { grid with cursor := grid.saved }

end TtyFrame.Screen.State

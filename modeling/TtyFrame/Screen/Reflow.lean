import TtyFrame.Screen.Grid

/-!
# Resizing a grid

A new height pulls rows out of the history or pushes rows into it, so that the cursor
stays on the screen. A new width joins rows that were wrapped and wraps rows that no
longer fit, and the cursor follows the text it stood on.
-/

set_option autoImplicit false

namespace TtyFrame.Screen

namespace Grid

/-- More lines: rows come back from the history, and blank rows fill the bottom. -/
def growLines (grid : Grid) (lines : Nat) : Grid :=
  let added := lines - grid.lines
  let pulled := min grid.history.size added
  let keep := grid.history.size - pulled
  { grid with
    lines
    history := grid.history.extract 0 keep
    screen := grid.history.extract keep grid.history.size ++ grid.screen ++
      Array.replicate (added - pulled) (.blank grid.columns)
    cursor := { grid.cursor with line := grid.cursor.line + pulled }
    saved := { grid.saved with line := grid.saved.line + pulled } }

/-- Fewer lines: rows above the cursor leave for the history as far as the cursor needs
it, and rows below are cut off. -/
def shrinkLines (grid : Grid) (lines : Nat) : Grid :=
  let scrolled := grid.scrollUp ⟨0, grid.lines⟩ (grid.cursor.line + 1 - lines)
  { scrolled with
    lines
    screen := scrolled.screen.extract 0 lines
    cursor := { grid.cursor with line := min grid.cursor.line (lines - 1) }
    saved := { grid.saved with line := min grid.saved.line (lines - 1) } }

/-- All rows, oldest first. -/
def allRows (grid : Grid) : Array Row := grid.history ++ grid.screen

/-- The grid with other rows, oldest first; the last of them are on the screen. -/
def withRows (grid : Grid) (rows : Array Row) : Grid :=
  let kept := rows.size - grid.lines
  { grid with history := rows.extract 0 kept, screen := rows.extract kept rows.size }

/-- A cursor that waits to wrap stands one column behind the last. -/
def unwrapCursor (grid : Grid) : Grid :=
  if grid.cursor.pendingWrap then
    { grid with
      cursor := { grid.cursor with pendingWrap := false, column := grid.cursor.column + 1 } }
  else grid

/-- The line and column after a step back by a number of places over lines of one width.
A place above the screen becomes its first place. -/
def stepBack (columns lines : Nat) (line : Int) (column count : Nat) : Int × Nat :=
  let up := ((count + columns - 1) - column) / columns
  let line := line - up
  let column := (columns + column - count % columns) % columns
  if line < 0 then (0, 0)
  else if (lines : Int) - 1 < line then ((lines : Int) - 1, columns - 1)
  else (line, min column (columns - 1))

structure Joining where
  /-- The rows so far, oldest first. -/
  rows : Array Row := #[]
  line : Int
  column : Nat
  pendingWrap : Bool
  /-- How many lines the cursor is to move towards the top. -/
  delta : Nat := 0

/-- Joins a row to the last of those before it, given how far it is from the bottom. -/
def joinRow (columns lines : Nat) (joining : Joining) (last row : Row) (fromBottom : Nat) :
    Joining :=
  let last := last.modifyLast (·.setWraps false)
  let last :=
    if (last.get (last.size - 1)).layout.leading then (last.shrink (last.size - 1)).1 else last
  let room := columns - last.size
  let count := min row.size room
  -- A wide glyph that would be cut in two stays in its row as a whole.
  let splits := 0 < count && (row.get (count - 1)).layout.wide
  let moved := if splits then room - 1 else room
  let (front, rest) := row.splitFront (if splits then count - 1 else count)
  let front := if splits then front.push .leadingSpacer else front
  let last := last.append front
  let wrapped := last.modifyLast (·.setWraps true)
  let others := joining.rows.pop
  let cursorFromBottom := (lines : Int) - joining.line - 1
  -- In the row of the cursor, the cursor moves with its text.
  if (fromBottom : Int) = cursorFromBottom then
    let (line, column) := stepBack columns lines joining.line joining.column moved
    let clamped := column = 0 && rest.isClear
    let (line, column) := if clamped then stepBack columns lines line column 1 else (line, column)
    let up := (joining.line - line).toNat
    let joining :=
      { joining with column, pendingWrap := joining.pendingWrap || clamped }
    if up ≠ 0 && rest.isClear then { joining with rows := others.push last }
    else { joining with rows := (others.push wrapped).push rest, delta := joining.delta + up }
  else if rest.isClear then
    { joining with
      rows := others.push last
      line := if (fromBottom : Int) < cursorFromBottom then joining.line + 1 else joining.line }
  else { joining with rows := (others.push wrapped).push rest }

def joinStep (columns lines : Nat) (joining : Joining) (row : Row) (fromBottom : Nat) :
    Joining :=
  match joining.rows.back? with
  | some last =>
    if last.size < columns && last.wraps then joinRow columns lines joining last row fromBottom
    else { joining with rows := joining.rows.push row }
  | none => { joining with rows := joining.rows.push row }

def joinRows (columns lines : Nat) : Joining → List Row → Joining
  | joining, [] => joining
  | joining, row :: rest =>
    joinRows columns lines (joinStep columns lines joining row rest.length) rest

/-- More columns, with rows joined that were wrapped. -/
def joinColumns (grid : Grid) (columns : Nat) : Grid :=
  let grid := grid.unwrapCursor
  let joined := joinRows columns grid.lines
    { line := grid.cursor.line, column := grid.cursor.column
      pendingWrap := grid.cursor.pendingWrap } grid.allRows.toList
  let missing := grid.lines - joined.rows.size
  let line := if missing = 0 then joined.line else max (joined.line - missing) 0
  let rows := joined.rows ++ Array.replicate missing (.blank columns)
  let below := ((grid.lines : Int) - line - 1).toNat
  let overflow := joined.delta - min below (rows.size - grid.lines)
  let rows := rows.extract 0 (rows.size + overflow - joined.delta)
  let line := if joined.delta = 0 then line else max (line - overflow) 0
  { grid.withRows (rows.map (·.grow columns)) with
    columns
    cursor :=
      { grid.cursor with
        line := line.toNat, column := joined.column, pendingWrap := joined.pendingWrap } }

/-- More columns, with blanks at the end of each row. -/
def widen (grid : Grid) (columns : Nat) : Grid :=
  { grid with
    columns
    history := grid.history.map (·.grow columns)
    screen := grid.screen.map (·.grow columns) }

structure Wrapping where
  rows : Array Row := #[]
  /-- Glyphs that go to the front of the next row. -/
  carried : Array Glyph := #[]
  line : Int
  column : Nat

/-- Takes one row while rows are wrapped, and cuts it as often as it does not fit. -/
def wrapRow (columns lines fromBottom : Nat) : Nat → Wrapping → Row → Wrapping
  | 0, wrapping, row => { wrapping with rows := wrapping.rows.push row }
  | fuel + 1, wrapping, row =>
    let isCursorRow (line : Int) : Bool := (fromBottom : Int) = (lines : Int) - line - 1
    let (kept, cut) := row.shrink columns
    if cut.isEmpty && !(isCursorRow wrapping.line && columns < wrapping.column) then
      { wrapping with rows := wrapping.rows.push kept }
    else
      -- A wide glyph that would be cut in two goes to the next row as a whole.
      let splits := columns ≤ kept.size && (kept.get (columns - 1)).layout.wide
      let cut := if splits then #[kept.get (columns - 1)] ++ cut else cut
      let kept := if splits then kept.modify (columns - 1) fun _ => .leadingSpacer else kept
      let trailing := (cut.back?.map (·.layout.leading)).getD false
      if trailing && cut.size = 1 then
        { wrapping with
          rows := wrapping.rows.push (kept.modify (columns - 1) (·.setWraps true)) }
      else
        let cut :=
          if trailing then (cut.modify (cut.size - 2) (·.setWraps true)).pop else cut
        let wrapping :=
          { wrapping with rows := wrapping.rows.push (kept.modifyLast (·.setWraps true)) }
        let goesOn := (cut.back?.map (·.layout.wraps)).getD false && 1 ≤ fromBottom
        -- A short rest does not get a row of its own if the row after it continues it.
        if goesOn && cut.size < columns then
          { wrapping with carried := cut.modify (cut.size - 1) (·.setWraps false) }
        else
          let onRow := isCursorRow wrapping.line
          let below := (fromBottom : Int) < (lines : Int) - wrapping.line - 1
          let line : Int :=
            if (onRow && wrapping.column < columns) || below then max (wrapping.line - 1) 0
            else wrapping.line
          let column :=
            if onRow && columns ≤ wrapping.column then wrapping.column - columns
            else wrapping.column
          wrapRow columns lines fromBottom fuel { wrapping with line, column }
            (Row.grow ⟨cut, cut.size⟩ columns)

def wrapRows (columns lines : Nat) : Wrapping → List Row → Wrapping
  | wrapping, [] => wrapping
  | wrapping, row :: rest =>
    let onRow := (rest.length : Int) = (lines : Int) - wrapping.line - 1
    let column :=
      if onRow then wrapping.column + wrapping.carried.size else wrapping.column
    let row := if wrapping.carried.isEmpty then row else row.prepend wrapping.carried
    let next := wrapRow columns lines rest.length (row.size + column + 1)
      { wrapping with column, carried := #[] } row
    wrapRows columns lines next rest

/-- The cursor after rows were wrapped: behind the last column of a row that is not
continued it waits to wrap, and otherwise it stays on the screen. -/
def wrappedCursor (grid : Grid) (columns : Nat) (line : Int) (column : Nat) : GridCursor :=
  let cursor := grid.cursor
  let row := (grid.row? line).getD (.blank columns)
  if column = columns ∧ !(row.get (columns - 1)).layout.wraps then
    { cursor with line := line.toNat, column := column - 1, pendingWrap := true }
  else if (grid.lines : Int) - 1 < line then
    { cursor with line := grid.lines - 1, column := columns - 1 }
  else { cursor with line := line.toNat, column := min column (columns - 1) }

/-- Fewer columns, with rows wrapped that do not fit. -/
def wrapColumns (grid : Grid) (columns : Nat) : Grid :=
  let grid := grid.unwrapCursor
  let wrapped := wrapRows columns grid.lines
    { line := grid.cursor.line, column := grid.cursor.column } grid.allRows.toList
  let kept := min wrapped.rows.size (grid.limit + grid.lines)
  let rows := wrapped.rows.extract (wrapped.rows.size - kept) wrapped.rows.size
  let grid := { grid.withRows rows with columns }
  { grid with
    cursor := grid.wrappedCursor columns wrapped.line wrapped.column
    saved := { grid.saved with column := min grid.saved.column (columns - 1) } }

/-- Fewer columns, with rows cut off. -/
def narrow (grid : Grid) (columns : Nat) : Grid :=
  { grid with
    columns
    history := grid.history.map fun row => (row.shrink columns).1
    screen := grid.screen.map fun row => (row.shrink columns).1
    cursor := { grid.cursor with column := min grid.cursor.column (columns - 1) }
    saved := { grid.saved with column := min grid.saved.column (columns - 1) } }

def resizeLines (grid : Grid) (lines : Nat) : Grid :=
  if grid.lines < lines then grid.growLines lines
  else if lines < grid.lines then grid.shrinkLines lines
  else grid

/-- Takes a new width over; `reflow` says whether rows are joined and wrapped. -/
def resizeColumns (grid : Grid) (reflow : Bool) (columns : Nat) : Grid :=
  if grid.columns < columns then
    if reflow then grid.joinColumns columns else grid.widen columns
  else if columns < grid.columns then
    if reflow then grid.wrapColumns columns else grid.narrow columns
  else grid

/-- Takes a new size over. Rows that come in have the plain background. -/
def resize (grid : Grid) (reflow : Bool) (columns lines : Nat) : Grid :=
  let pen := grid.cursor.pen
  let plain := { grid with cursor := { grid.cursor with pen := {} } }
  let resized := (plain.resizeLines lines).resizeColumns reflow columns
  { resized with cursor := { resized.cursor with pen } }

end Grid

end TtyFrame.Screen

import TtyFrame.Frame.Counted
import TtyFrame.Screen.View
import TtyFrame.Scroll.Machine

/-!
# Walking over a window

The walk over the lines of a window that delivers its runs. It counts rows and lines with
machine numbers, and the lengths of the history and of the screen give up their upper halves.
-/

set_option autoImplicit false

namespace TtyFrame.Screen

/-- The sweep over the glyphs of a line, column by column, with the start, the style and the
text of the run under way; there is no style before the first glyph. -/
def sweep (overrides : Overrides) (row : Nat) :
    Nat → Nat → Option TextStyle → Array Char → List Glyph → List Run
  | _, start, style, text, [] =>
    match style with
    | some current => [⟨row, start, current, text.toList⟩]
    | none => []
  | column, start, style, text, glyph :: rest =>
    let next := glyph.style overrides
    match style.filter (· ≠ next) with
    | some current =>
      ⟨row, start, current, text.toList⟩ ::
        sweep overrides row (column + 1) column (some next) #[glyph.shown] rest
    | none => sweep overrides row (column + 1) start (some next) (text.push glyph.shown) rest

open Scroll (maxReach saturate)

/-- A sum of two line numbers. -/
def addLines (first second : Int32) : Except Trap Int32 :=
  let sum := first.toInt + second.toInt
  if saturate sum = sum then .ok (Int32.ofInt sum) else .error .overflow

namespace State

/-- The glyphs in the columns of the screen on a line. -/
def cells (state : State) (line : Int32) : Except Trap (List Glyph) :=
  match state.grid.row? line.toInt with
  | some row =>
    if state.columns ≤ row.size then .ok (row.cells.toList.take state.columns)
    else .error .outOfBounds
  | none => .error .outOfBounds

/-- The walk over a number of rows of a window, from a row on. Rows above the top line are
passed over, and the first one from the bottom line on ends it. -/
def walkFrom (state : State) (origin top bottom : Int32) : Nat → Nat → Except Trap (List Run)
  | _, 0 => return []
  | row, left + 1 => do
    let line ← addLines origin (Int32.ofNat row)
    if line < top then walkFrom state origin top bottom (row + 1) left
    else if bottom ≤ line then return []
    else do
      let glyphs ← state.cells line
      let later ← walkFrom state origin top bottom (row + 1) left
      return sweep state.overrides row 0 0 none #[] glyphs ++ later

/-- The oldest line of the history. -/
def oldest (state : State) : Except Trap Int32 :=
  match Scroll.Machine.negate? (Int32.ofNat state.grid.history.size) with
  | some line => .ok line
  | none => .error .overflow

/-- The line below the screen. -/
def bottom (state : State) : Int32 := Int32.ofNat state.lines

/-- The runs of a window. -/
def walk (state : State) (origin : Int32) (rows : Nat) : Except Trap (List Run) := do
  let top ← state.oldest
  -- These rows lie above the history, and their line numbers can all be counted.
  let passed := min rows (min (maxReach + 1) (top.toInt - origin.toInt).toNat)
  state.walkFrom origin top state.bottom passed (rows - passed)

/-- A screen as a frame is built from it in machine words. -/
def counted (state : State) : CountedView where
  history := state.grid.history.size
  cursor := state.shownCursor
  walk origin rows := state.walk (Int32.ofInt origin) rows

end State

end TtyFrame.Screen

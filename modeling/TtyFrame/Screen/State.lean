import TtyFrame.Engine
import TtyFrame.Screen.Lexer
import TtyFrame.Screen.Mode
import TtyFrame.Screen.Override
import TtyFrame.Screen.Reflow

/-!
# The state of a screen

Two grids of one size, of which one is on, and all that programs can set besides.
-/

set_option autoImplicit false

namespace TtyFrame.Screen

inductive PointerShape where
  | block
  | underline
  | beam
  | hollow
  | hidden
deriving DecidableEq, Repr, Inhabited

structure PointerStyle where
  shape : PointerShape := .block
  blinking : Bool := false
deriving DecidableEq, Repr, Inhabited

structure State where
  /-- The grid that is on. -/
  grid : Grid
  /-- The grid that is off. -/
  other : Grid
  modes : Modes := {}
  /-- The lines that scroll. -/
  region : Region
  /-- The columns that a tab stops at. -/
  tabs : Array Bool
  overrides : Overrides := .none
  /-- The cursor style that a program has set. -/
  pointer : Option PointerStyle := none
  /-- The cursor style while no program has set one. -/
  defaultPointer : PointerStyle := {}

namespace State

def tabWidth : Nat := 8

def initialTabs (columns : Nat) : Array Bool :=
  Array.ofFn fun (column : Fin columns) => column.val % tabWidth = 0

/-- An empty screen; only the primary grid keeps history. -/
def blank (columns lines history : Nat) (defaultPointer : PointerStyle) : State :=
  { grid := .blank columns lines history
    other := .blank columns lines 0
    region := ⟨0, lines⟩
    tabs := initialTabs columns
    defaultPointer }

def columns (state : State) : Nat := state.grid.columns

def lines (state : State) : Nat := state.grid.lines

def pointerStyle (state : State) : PointerStyle := state.pointer.getD state.defaultPointer

def onGrid (state : State) (change : Grid → Grid) : State :=
  { state with grid := change state.grid }

def onCursor (state : State) (change : GridCursor → GridCursor) : State :=
  state.onGrid fun grid => { grid with cursor := change grid.cursor }

/-- Takes a new size over. The primary grid reflows; the region and new tab stops are
as they first were. -/
def resize (state : State) (columns lines : Nat) : State :=
  if columns = state.columns ∧ lines = state.lines then state
  else
    { state with
      grid := state.grid.resize (!state.modes.alternate) columns lines
      other := state.other.resize state.modes.alternate columns lines
      region := ⟨0, lines⟩
      tabs := Array.ofFn fun (column : Fin columns) =>
        state.tabs.getD column.val (column.val % tabWidth = 0) }

/-- Puts the cursor at a place, whatever the program has chosen. -/
def placeCursor (state : State) (line : Int) (column : Nat) : State :=
  state.onCursor fun cursor => { cursor with line := line.toNat, column }

end State

end TtyFrame.Screen

import TtyFrame.Style

/-!
# Views of a buffer

What a terminal buffer shows while it is locked: its extent, its cursor and the runs of
one style on a window of its lines.
-/

set_option autoImplicit false

namespace TtyFrame

/-- The character of the cell to the right of a wide glyph. -/
def continuation : Char := '\ue000'

/-- Characters of one style next to each other on one row. -/
structure Run where
  row : Nat
  column : Nat
  style : TextStyle
  text : List Char
deriving DecidableEq, Repr

inductive CursorShape where
  | block
  | underline
  | bar
deriving DecidableEq, Repr

/-- A cursor on the live screen. -/
structure Cursor where
  row : Nat := 0
  column : Nat := 0
  visible : Bool := false
  shape : CursorShape := .block
  blinking : Bool := true
deriving DecidableEq, Repr

/-- A locked buffer. Line 0 is the top of the live screen, and negative lines are
history. -/
structure BufferView where
  width : Nat
  height : Nat
  history : Nat
  /-- The alternate screen is on. -/
  alternate : Bool
  cursor : Cursor
  /-- The runs on a number of lines from an origin on, in the order of their delivery. -/
  runs : Int → Nat → List Run

/-- The lock of a buffer could not be had in time. -/
inductive LockError where
  | timeout
deriving DecidableEq, Repr

/-- How long the lock is waited for, in milliseconds. -/
def lockPatience : Nat := 250

def LockError.message : LockError → String
  | .timeout =>
    "timed out after " ++ toString lockPatience ++ "ms waiting for the terminal buffer lock"

end TtyFrame

import TtyFrame.Screen.Glyph

/-!
# Rows of the screen

A row knows how many of its places may have been written since it was last blank, and
only those are blanked again unless the background has changed.
-/

set_option autoImplicit false

namespace TtyFrame.Screen

structure Row where
  cells : Array Glyph
  /-- Places from here on have not been written since the row was last blank. -/
  occupied : Nat := 0
deriving DecidableEq, Repr, Inhabited

namespace Row

def blank (columns : Nat) : Row := ⟨Array.replicate columns {}, 0⟩

def size (row : Row) : Nat := row.cells.size

/-- The glyph at a column; outside of the row there is a blank. -/
def get (row : Row) (column : Nat) : Glyph := row.cells.getD column {}

def modify (row : Row) (column : Nat) (change : Glyph → Glyph) : Row :=
  ⟨row.cells.modify column change, max row.occupied (column + 1)⟩

/-- Changes the last glyph; the whole row counts as written. -/
def modifyLast (row : Row) (change : Glyph → Glyph) : Row :=
  ⟨row.cells.modify (row.cells.size - 1) change, row.cells.size⟩

def fill (row : Row) (start stop : Nat) (glyph : Glyph) : Row :=
  ⟨row.cells.mapIdx fun column old => if start ≤ column ∧ column < stop then glyph else old,
    max row.occupied stop⟩

/-- Rearranges all places by giving, for each column, its new glyph. -/
def rebuild (row : Row) (glyphAt : Nat → Glyph) : Row :=
  ⟨row.cells.mapIdx fun column _ => glyphAt column, row.cells.size⟩

/-- Blanks the row in a background. If the last place already has that background, only
the places that may have been written are blanked. -/
def reset (row : Row) (background : CellColor) : Row :=
  let dirty :=
    if (row.get (row.size - 1)).pen.background = background then row.occupied else row.size
  ⟨row.cells.mapIdx fun column old => if column < dirty then .erased background else old, 0⟩

def isClear (row : Row) : Bool := row.cells.all Glyph.isEmpty

/-- The row is continued in the next one. -/
def wraps (row : Row) : Bool := 0 < row.size && (row.get (row.size - 1)).layout.wraps

/-- The row with blanks at its end, up to the given size. -/
def grow (row : Row) (columns : Nat) : Row :=
  if columns ≤ row.size then row
  else { row with cells := row.cells ++ Array.replicate (columns - row.size) {} }

/-- Glyphs without the empty ones at their end. -/
def trimEmpty (glyphs : Array Glyph) : Array Glyph :=
  (glyphs.toList.reverse.dropWhile Glyph.isEmpty).reverse.toArray

/-- Cuts a row to a size; gives also what was cut off, without empty places at its end. -/
def shrink (row : Row) (columns : Nat) : Row × Array Glyph :=
  if row.size ≤ columns then (row, #[])
  else
    (⟨row.cells.extract 0 columns, min row.occupied columns⟩,
      trimEmpty (row.cells.extract columns row.size))

def splitFront (row : Row) (count : Nat) : Array Glyph × Row :=
  (row.cells.extract 0 count, ⟨row.cells.extract count row.size, row.occupied - count⟩)

def append (row : Row) (glyphs : Array Glyph) : Row :=
  ⟨row.cells ++ glyphs, row.occupied + glyphs.size⟩

def prepend (row : Row) (glyphs : Array Glyph) : Row :=
  ⟨glyphs ++ row.cells, row.occupied + glyphs.size⟩

end Row

end TtyFrame.Screen

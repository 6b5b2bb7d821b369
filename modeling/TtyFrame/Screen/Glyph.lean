import TtyFrame.Style

/-!
# Cells of the screen

One place of the screen grid: its character, its colours by name, number or value, and
the flags that lay out wide glyphs and wrapped lines.
-/

set_option autoImplicit false

namespace TtyFrame.Screen

/-- A colour that a program names without a value. -/
inductive NamedColor where
  /-- One of the sixteen base colours. -/
  | base (index : Fin 16)
  | foreground
  | background
  | cursor
  /-- The dim form of one of the first eight base colours. -/
  | dim (index : Fin 8)
  | brightForeground
  | dimForeground
deriving DecidableEq, Repr

/-- The place of a named colour in the table of overrides. -/
def NamedColor.slot : NamedColor → Nat
  | .base index => index.val
  | .foreground => 256
  | .background => 257
  | .cursor => 258
  | .dim index => 259 + index.val
  | .brightForeground => 267
  | .dimForeground => 268

def NamedColor.baseNames : List String :=
  ["Black", "Red", "Green", "Yellow", "Blue", "Magenta", "Cyan", "White"]

def NamedColor.otherNames : List (String × NamedColor) :=
  [("Foreground", .foreground), ("Background", .background), ("Cursor", .cursor),
   ("BrightForeground", .brightForeground), ("DimForeground", .dimForeground)]

/-- The colour of a name such as `Red`, `BrightRed`, `DimRed` or `Foreground`. -/
def NamedColor.ofName? (name : String) : Option NamedColor :=
  let base := List.finRange 8 |>.findSome? fun index =>
    let color := baseNames.getD index.val ""
    if name = color then some (.base ⟨index.val, by omega⟩)
    else if name = "Bright" ++ color then some (.base ⟨8 + index.val, by omega⟩)
    else if name = "Dim" ++ color then some (.dim index)
    else none
  base.or ((otherNames.find? (·.1 = name)).map (·.2))

inductive CellColor where
  | named (name : NamedColor)
  | indexed (index : UInt8)
  | direct (color : Rgb)
deriving DecidableEq, Repr

/-- The look that the next characters are written with. -/
structure Pen where
  foreground : CellColor := .named .foreground
  background : CellColor := .named .background
  attributes : Attributes := {}
  strikeout : Bool := false
deriving DecidableEq, Repr

/-- What a cell is besides its character. -/
structure Layout where
  /-- The line goes on in the next row. -/
  wraps : Bool := false
  /-- The left half of a wide glyph. -/
  wide : Bool := false
  /-- The right half of a wide glyph. -/
  spacer : Bool := false
  /-- Left blank at the end of a row because a wide glyph did not fit. -/
  leading : Bool := false
deriving DecidableEq, Repr

structure Glyph where
  character : Char := ' '
  pen : Pen := {}
  layout : Layout := {}
  /-- Zero-width characters are attached to the character. -/
  marked : Bool := false
deriving DecidableEq, Repr, Inhabited

namespace Glyph

def erased (background : CellColor) : Glyph := { pen := { background } }

/-- A place that a reflow may drop. Only what could be seen there counts. -/
def isEmpty (glyph : Glyph) : Bool :=
  (glyph.character = ' ' || glyph.character = '\t') &&
    glyph.pen.background = .named .background && glyph.pen.foreground = .named .foreground &&
    !glyph.pen.attributes.inverse && !glyph.pen.attributes.underline &&
    !glyph.pen.strikeout && !glyph.layout.wraps && !glyph.layout.spacer &&
    !glyph.layout.leading && !glyph.marked

def setWraps (wraps : Bool) (glyph : Glyph) : Glyph :=
  { glyph with layout := { glyph.layout with wraps } }

/-- The left half of a wide glyph whose right half is gone. -/
def clearWide (glyph : Glyph) : Glyph :=
  { glyph with
    character := ' ', marked := false, layout := { glyph.layout with wide := false } }

/-- The right half of a wide glyph whose left half is gone. -/
def clearSpacer (glyph : Glyph) : Glyph :=
  { glyph with layout := { glyph.layout with spacer := false } }

/-- The last place of a row when the wide glyph in the next row is gone. -/
def clearLeading (glyph : Glyph) : Glyph :=
  { glyph with layout := { glyph.layout with leading := false } }

/-- The blank that is left where a wide glyph does not fit. -/
def leadingSpacer : Glyph := { layout := { leading := true } }

end Glyph

end TtyFrame.Screen

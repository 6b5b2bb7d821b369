import TtyFrame.Config

/-!
# Styles

Colours and attributes as the terminal stores them, and the colours they are painted
with once the palette and the default style are known.
-/

set_option autoImplicit false

namespace TtyFrame

/-- A colour before the palette is known. -/
inductive Color where
  | indexed (index : UInt8)
  | direct (color : Rgb)
deriving DecidableEq, Repr

def Color.resolve (palette : Palette) : Color → Rgb
  | .indexed index => palette.resolve index
  | .direct color => color

structure Attributes where
  bold : Bool := false
  italic : Bool := false
  underline : Bool := false
  dim : Bool := false
  hidden : Bool := false
  inverse : Bool := false
deriving DecidableEq, Repr

namespace Attributes

/-- The attributes of a bit set: bold 1, italic 2, underline 4, dim 8, hidden 16,
inverse 32. Other bits do not count. -/
def ofBits (bits : Nat) : Attributes :=
  ⟨bits.testBit 0, bits.testBit 1, bits.testBit 2, bits.testBit 3, bits.testBit 4,
    bits.testBit 5⟩

def bits (a : Attributes) : Nat :=
  a.bold.toNat + 2 * a.italic.toNat + 4 * a.underline.toNat + 8 * a.dim.toNat +
    16 * a.hidden.toNat + 32 * a.inverse.toNat

end Attributes

/-- The style of a text. A colour that is not set is the default one. -/
structure TextStyle where
  foreground : Option Color := none
  background : Option Color := none
  attributes : Attributes := {}
deriving DecidableEq, Repr

/-- The default style of a terminal. A colour may be unavailable. -/
structure DefaultStyle where
  foreground : Option Color := none
  background : Option Color := none
deriving DecidableEq, Repr

namespace DefaultStyle

/-- A default colour was asked for and is not available. -/
inductive Error where
  | unavailable
deriving DecidableEq, Repr

def Error.message : Error → String
  | .unavailable => "default text style is not available"

def ofConfig (config : Config) : DefaultStyle :=
  ⟨some (.indexed config.defaultForeground), some (.indexed config.defaultBackground)⟩

def read : Option Color → Except Error Color
  | some color => .ok color
  | none => .error .unavailable

/-- Stands in for a default foreground that is not available. -/
def fallbackForeground : Color := .indexed 15

def fallbackBackground : Color := .indexed 0

end DefaultStyle

structure Paint where
  foreground : Rgb
  background : Rgb
deriving DecidableEq, Repr

def DefaultStyle.resolve (style : DefaultStyle) (palette : Palette) : Paint :=
  ⟨(style.foreground.getD fallbackForeground).resolve palette,
    (style.background.getD fallbackBackground).resolve palette⟩

/-- A style as it is painted: unset colours are the default ones, inverse swaps the two,
and then hidden text takes the colour of its background. -/
def TextStyle.resolve (style : TextStyle) (defaults : Paint) (palette : Palette) : Paint :=
  let foreground := (style.foreground.map (·.resolve palette)).getD defaults.foreground
  let background := (style.background.map (·.resolve palette)).getD defaults.background
  let painted : Paint :=
    if style.attributes.inverse then ⟨background, foreground⟩ else ⟨foreground, background⟩
  if style.attributes.hidden then { painted with foreground := painted.background }
  else painted

end TtyFrame

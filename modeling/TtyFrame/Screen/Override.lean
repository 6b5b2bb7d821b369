import TtyFrame.Screen.Glyph
import TtyFrame.Text.Hex

/-!
# Overridden colours

A program may set its own values for indexed and named colours. Cells show them in
place of the palette.
-/

set_option autoImplicit false

namespace TtyFrame.Screen

open Text

/-- The colours that a program has set, by their slots. -/
structure Overrides where
  colors : Array (Option Rgb)
deriving DecidableEq, Repr

namespace Overrides

/-- The number of slots: the palette and the named colours after it. -/
def slots : Nat := 269

def none : Overrides := ⟨Array.replicate slots .none⟩

def get? (overrides : Overrides) (slot : Nat) : Option Rgb := overrides.colors.getD slot .none

def set (overrides : Overrides) (slot : Nat) (color : Rgb) : Overrides :=
  ⟨overrides.colors.setIfInBounds slot (some color)⟩

def reset (overrides : Overrides) (slot : Nat) : Overrides :=
  ⟨overrides.colors.setIfInBounds slot .none⟩

def resetPalette (overrides : Overrides) : Overrides :=
  ⟨overrides.colors.mapIdx fun slot color => if slot < 256 then .none else color⟩

/-- An indexed colour: its value if it has been set, and else its index. -/
def indexed (overrides : Overrides) (index : UInt8) : Color :=
  match overrides.get? index.toNat with
  | some color => .direct color
  | .none => .indexed index

/-- A named colour. Dim colours are those they are dim forms of; what is neither a base
colour nor one of those is only a colour if it has been set. -/
def named (overrides : Overrides) : NamedColor → Option Color
  | .base index => some (overrides.indexed (UInt8.ofNat index.val))
  | .dim index => some (overrides.indexed (UInt8.ofNat index.val))
  | name => (overrides.get? name.slot).map .direct

/-- The colour of a cell; nothing stands for the default one. -/
def resolve (overrides : Overrides) : CellColor → Option Color
  | .named name => overrides.named name
  | .indexed index => some (overrides.indexed index)
  | .direct color => some (.direct color)

end Overrides

def asciiChars? (bytes : List UInt8) : Option (List Char) :=
  if bytes.all (· < 0x80) then some (bytes.map fun byte => Char.ofNat byte.toNat) else none

/-- A level written with one to four digits, scaled to a byte. -/
def scaledLevel? (digits : List Char) : Option UInt8 :=
  if 4 < digits.length then none
  else (hexNumber? digits).map fun value =>
    UInt8.ofNat (255 * value / (Nat.pow 16 digits.length - 1))

/-- A level written with any number of digits, of which the first two count. -/
def truncatedLevel? (digits : List Char) : Option UInt8 :=
  (hexNumber? digits).bind fun value =>
    if UInt64.size ≤ value then none
    else some (UInt8.ofNat (value * 16 % UInt64.size / Nat.pow 16 (digits.length - 1)))

def rgbOfLevels? (red green blue : Option UInt8) : Option Rgb := do
  return ⟨← red, ← green, ← blue⟩

def splitSlash : List Char → List (List Char)
  | [] => [[]]
  | '/' :: rest => [] :: splitSlash rest
  | c :: rest =>
    match splitSlash rest with
    | part :: parts => (c :: part) :: parts
    | [] => [[c]]

/-- A colour as programs write it: `#` with three equal groups of digits, or `rgb:` with
three groups between slashes. -/
def colorSpec? (bytes : List UInt8) : Option Rgb :=
  (asciiChars? bytes).bind fun text =>
    match text with
    | '#' :: digits =>
      let size := digits.length / 3
      rgbOfLevels? (truncatedLevel? (digits.take size))
        (truncatedLevel? ((digits.drop size).take size)) (truncatedLevel? (digits.drop (2 * size)))
    | 'r' :: 'g' :: 'b' :: ':' :: levels =>
      match splitSlash levels with
      | [red, green, blue] =>
        rgbOfLevels? (scaledLevel? red) (scaledLevel? green) (scaledLevel? blue)
      | _ => none
    | _ => none

end TtyFrame.Screen

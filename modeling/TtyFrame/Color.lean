import TtyFrame.Text.Blank
import TtyFrame.Text.Hex
import TtyFrame.Text.Quoted

/-!
# Colours

A 24-bit colour, its packed number and its `#rrggbb` text. Reading takes digits of
either case, an optional `#` and blanks around it; writing uses lower case.
-/

set_option autoImplicit false

namespace TtyFrame

open Text

/-- A 24-bit colour. -/
structure Rgb where
  red : UInt8
  green : UInt8
  blue : UInt8
deriving DecidableEq, Repr, Inhabited

namespace Rgb

def black : Rgb := ⟨0, 0, 0⟩

def gray (level : UInt8) : Rgb := ⟨level, level, level⟩

/-- The colour of a packed `0xRRGGBB` number; higher bits do not count. -/
def ofPacked (packed : Nat) : Rgb :=
  ⟨UInt8.ofNat (packed / 65536), UInt8.ofNat (packed / 256), UInt8.ofNat packed⟩

def packed (color : Rgb) : Nat :=
  color.red.toNat * 65536 + color.green.toNat * 256 + color.blue.toNat

def chars (color : Rgb) : List Char :=
  '#' :: (hexPair color.red ++ hexPair color.green ++ hexPair color.blue)

def text (color : Rgb) : String := String.ofList color.chars

/-- Why a text is not a colour. Both carry the text as it was given. -/
inductive ParseError where
  /-- The text does not have the length or the characters of a colour. -/
  | format (text : String)
  /-- The length is right and some character is no hexadecimal digit. -/
  | digits (text : String)
deriving DecidableEq, Repr

def ParseError.message : ParseError → String
  | .format text => "color must look like #rrggbb, got " ++ quote text
  | .digits text => "invalid hex digits in " ++ quote text

/-- A text without its first `#`, if it starts with one. -/
def dropSharp : List Char → List Char
  | '#' :: rest => rest
  | text => text

/-- Reads a colour from `rrggbb` or `#rrggbb` with blanks around it. -/
def parse (text : String) : Except ParseError Rgb :=
  let digits := dropSharp (trim text.toList)
  if digits.length = 6 ∧ digits.all (·.toNat < 128) then
    if digits.all isHexDigit then
      match hexNumber? digits with
      | some packed => .ok (ofPacked packed)
      | none => .error (.digits text)
    else .error (.digits text)
  else .error (.format text)

end Rgb

end TtyFrame

import TtyFrame.Color

/-!
# Palettes

The 256 indexed colours. The first sixteen depend on the theme and on overrides; the
colour cube and the grays after them are fixed.
-/

set_option autoImplicit false

namespace TtyFrame

/-- The sixteen base colours; all others are the same in every palette. -/
structure Palette where
  base : Vector Rgb 16
deriving DecidableEq, Repr

namespace Palette

def cubeLevel (coordinate : Nat) : UInt8 :=
  if coordinate = 0 then 0 else UInt8.ofNat (55 + 40 * coordinate)

/-- The cube colour with the given rank, counted red first. -/
def cubeColor (rank : Nat) : Rgb :=
  ⟨cubeLevel (rank / 36), cubeLevel (rank / 6 % 6), cubeLevel (rank % 6)⟩

/-- The gray with the given rank, from dark to light. -/
def grayColor (rank : Nat) : Rgb := .gray (UInt8.ofNat (8 + 10 * rank))

def resolve (palette : Palette) (index : UInt8) : Rgb :=
  if base : index.toNat < 16 then palette.base[index.toNat]
  else if index.toNat < 232 then cubeColor (index.toNat - 16)
  else grayColor (index.toNat - 232)

/-- The palette with the given packed base colours; a missing one is black. -/
def ofPacked (colors : List Nat) : Palette :=
  ⟨Vector.ofFn fun index => .ofPacked (colors.getD index.val 0)⟩

def xterm : Palette := ofPacked
  [0x000000, 0xcd0000, 0x00cd00, 0xcdcd00, 0x1e90ff, 0xcd00cd, 0x00cdcd, 0xe5e5e5,
   0x4c4c4c, 0xff0000, 0x00ff00, 0xffff00, 0x4682b4, 0xff00ff, 0x00ffff, 0xffffff]

def windows : Palette := ofPacked
  [0x000000, 0x800000, 0x008000, 0x808000, 0x000080, 0x800080, 0x008080, 0xc0c0c0,
   0x808080, 0xff0000, 0x00ff00, 0xffff00, 0x4682b4, 0xff00ff, 0x00ffff, 0xffffff]

inductive Warning where
  | unknownTheme (name : String)
  | tooManyEntries (count : Nat)
  | badEntry (index : Nat) (cause : Rgb.ParseError)
deriving DecidableEq, Repr

def Warning.message : Warning → String
  | .unknownTheme name => "Unknown palette theme " ++ Text.quote name ++ ", using xterm"
  | .tooManyEntries count =>
    "Palette override has " ++ toString count ++ " entries, only the first 16 are used"
  | .badEntry index cause =>
    "Ignoring palette entry " ++ toString index ++ ": " ++ cause.message

/-- Puts the colour that a text names at a base index. A text that names none leaves
the palette as it is. -/
def override (palette : Palette) (index : Nat) (entry : String) : Palette :=
  match Rgb.parse entry with
  | .ok color => ⟨palette.base.setIfInBounds index color⟩
  | .error _ => palette

def overrideFrom (palette : Palette) : Nat → List String → Palette
  | _, [] => palette
  | index, entry :: rest => (palette.override index entry).overrideFrom (index + 1) rest

/-- Overrides base colours in index order. Only the first sixteen entries count. -/
def withOverrides (palette : Palette) (entries : List String) : Palette :=
  palette.overrideFrom 0 (entries.take 16)

def entryWarnings : Nat → List String → List Warning
  | _, [] => []
  | index, entry :: rest =>
    match Rgb.parse entry with
    | .ok _ => entryWarnings (index + 1) rest
    | .error cause => .badEntry index cause :: entryWarnings (index + 1) rest

def overrideWarnings (entries : List String) : List Warning :=
  (if 16 < entries.length then [.tooManyEntries entries.length] else []) ++
    entryWarnings 0 (entries.take 16)

end Palette

inductive Theme where
  | xterm
  | windows
deriving DecidableEq, Repr

namespace Theme

/-- The characters of a theme's name as it is looked up: no blanks around it, lower case. -/
def nameKey (name : String) : List Char :=
  (Text.trim name.toList).map Char.toLower

/-- The theme of a name; case and blanks around it do not matter. -/
def ofName? (name : String) : Option Theme :=
  if nameKey name = "xterm".toList then some .xterm
  else if nameKey name = "windows".toList then some .windows
  else none

def name : Theme → String
  | .xterm => "xterm"
  | .windows => "windows"

def palette : Theme → Palette
  | .xterm => .xterm
  | .windows => .windows

def ofName (name : String) : Theme := (ofName? name).getD .xterm

end Theme

namespace Palette

def choose (theme : String) (overrides : List String) : Palette :=
  (Theme.ofName theme).palette.withOverrides overrides

def chooseWarnings (theme : String) (overrides : List String) : List Warning :=
  (if (Theme.ofName? theme).isNone then [.unknownTheme theme] else []) ++
    overrideWarnings overrides

end Palette

end TtyFrame

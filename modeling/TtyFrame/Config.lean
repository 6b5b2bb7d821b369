import TtyFrame.Composition.Strategy
import TtyFrame.Palette

/-!
# Configuration

The settings a user can choose, their defaults and the limits on them.
-/

set_option autoImplicit false

namespace TtyFrame

/-- The settings of a terminal view. -/
structure Config where
  theme : String := "xterm"
  /-- Colours that replace the base colours of the palette, in index order. -/
  palette : List String := []
  scrollbackLines : Nat := 10000
  columns : Nat := 80
  rows : Nat := 24
  /-- The palette index of the default foreground. -/
  defaultForeground : UInt8 := 15
  defaultBackground : UInt8 := 0
  composition : Composition.Strategy := .buffered
  scrollReverse : Bool := false
deriving DecidableEq, Repr, Inhabited

namespace Config

/-- The most scrollback lines that are kept, whatever the settings say. -/
def maxScrollback : Nat := 100000

def minColumns : Nat := 5

def minRows : Nat := 2

def effectiveScrollback (config : Config) : Nat := min config.scrollbackLines maxScrollback

def gridSize (config : Config) : Nat × Nat :=
  (max config.columns minColumns, max config.rows minRows)

def colors (config : Config) : Palette := Palette.choose config.theme config.palette

def colorWarnings (config : Config) : List Palette.Warning :=
  Palette.chooseWarnings config.theme config.palette

end Config

end TtyFrame

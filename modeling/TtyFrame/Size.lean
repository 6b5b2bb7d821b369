import TtyFrame.Config

/-!
# Grid sizes

A size in cells. A view never asks for less than the smallest grid.
-/

set_option autoImplicit false

namespace TtyFrame

structure Size where
  columns : Nat := 80
  rows : Nat := 24
deriving DecidableEq, Repr, Inhabited

namespace Size

/-- The size, raised to the smallest grid. -/
def clamped (size : Size) : Size :=
  ⟨max size.columns Config.minColumns, max size.rows Config.minRows⟩

def ofConfig (config : Config) : Size := ⟨config.gridSize.1, config.gridSize.2⟩

end Size

end TtyFrame

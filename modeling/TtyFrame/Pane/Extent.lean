import TtyFrame.Scroll.Distance
import TtyFrame.Size

/-!
# Pixel extents

How many cells fit into a number of pixels.
-/

set_option autoImplicit false

namespace TtyFrame

/-- The most cells that are counted in one direction. -/
def maxCells : Nat := 65535

class Extent (α : Type) where
  isPositive : α → Bool
  /-- The whole cells of a size that fit into an extent, at most `maxCells`. -/
  cells : α → α → Nat

/-- Single-precision pixels; an extent that is no number of cells has room for none. -/
instance : Extent Float32 where
  isPositive extent := 0 < extent
  cells extent cell :=
    let cells := (extent / cell).floor
    if cells.isFinite && 0 < cells then
      (if Float32.ofNat maxCells < cells then Float32.ofNat maxCells else cells).toUInt16.toNat
    else 0

instance : Extent Int where
  isPositive extent := 0 < extent
  cells extent cell := min (extent / cell).toNat maxCells

def Size.fitting {α : Type} [Extent α] (width height cellWidth cellHeight : α) : Size :=
  ⟨Extent.cells width cellWidth, Extent.cells height cellHeight⟩

end TtyFrame

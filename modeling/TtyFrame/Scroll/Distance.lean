import TtyFrame.Single.Whole

/-!
# Drag distances

What a scroll state asks of the numbers that measure a drag. Single-precision numbers
measure real drags; integers measure drags of whole pixels exactly.
-/

set_option autoImplicit false

namespace TtyFrame.Scroll

/-- The numbers that measure a drag. No law ties the operations together, so what holds
for every instance cannot hang on how they round. -/
class Distance (α : Type) where
  zero : α
  neg : α → α
  add : α → α → α
  /-- Neither infinite nor undefined. -/
  isFinite : α → Bool
  isPositive : α → Bool
  /-- What a distance leaves over after whole lines of a height. -/
  remainder : α → α → α
  /-- The whole lines in a distance, given what it leaves over and the height. -/
  wholeLines : α → α → α → α
  isZero : α → Bool
  /-- A number of lines as an integer, at most the reach in either direction. -/
  toLines : Nat → α → Int

/-- Integers within the range of 32 bits, bounds included. -/
def saturate (value : Int) : Int := max (-2147483648) (min 2147483647 value)

/-- Whole pixels, without any rounding. -/
instance : Distance Int where
  zero := 0
  neg distance := -distance
  add := (· + ·)
  isFinite _ := true
  isPositive distance := 0 < distance
  remainder total height := total.tmod height
  wholeLines total left height := (total - left).tdiv height
  isZero lines := lines = 0
  toLines reach lines := max (-reach) (min reach lines)

def clampSingle (low high value : Float32) : Float32 :=
  if value < low then low else if high < value then high else value

instance : Distance Float32 where
  zero := 0
  neg distance := -distance
  add := (· + ·)
  isFinite distance := distance.isFinite
  isPositive distance := 0 < distance
  remainder := Single.remainder
  wholeLines total left height := Single.round ((total - left) / height)
  isZero lines := lines == 0
  toLines reach lines :=
    let most := (UInt64.ofNat reach).toFloat32
    saturate (Single.toInt (clampSingle (-most) most lines))

end TtyFrame.Scroll

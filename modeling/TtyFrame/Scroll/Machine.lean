import TtyFrame.Scroll

/-!
# Scrolling with machine numbers

Lines are numbers of 32 bits with a sign, and the length of a history is one of 64 bits
without.
-/

set_option autoImplicit false

namespace TtyFrame.Scroll.Machine

/-- The negative of a number; the least number has none. -/
def negate? (value : Int32) : Option Int32 :=
  if value = Int32.minValue then none else some (-value)

/-- A number brought between two bounds. There is no result for bounds out of order. -/
def clamp? (low high value : Int32) : Option Int32 :=
  if low ≤ high then some (if value < low then low else if high < value then high else value)
  else none

/-- The length of a history, at most the largest line number. -/
def reach (history : UInt64) : UInt64 := if history < 2147483647 then history else 2147483647

/-- An origin within the history, whose length gives up its upper half on the way. -/
def clampOrigin? (origin : Int32) (history : UInt64) : Option Int32 := do
  let oldest ← negate? (reach history).toUInt32.toInt32
  clamp? oldest 0 origin

def saturatingNegate (value : Int32) : Int32 :=
  if value = Int32.minValue then Int32.maxValue else -value

def saturatingAdd (first second : Int32) : Int32 :=
  Int32.ofInt (saturate (first.toInt + second.toInt))

/-- The origin after a scroll by whole lines. -/
def scrollLines? (origin : Int32) (history : UInt64) (lines : Int32) : Option Int32 :=
  clampOrigin? (saturatingAdd origin (saturatingNegate lines)) history

end TtyFrame.Scroll.Machine

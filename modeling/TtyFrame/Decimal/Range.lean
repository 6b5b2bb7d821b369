/-!
# The range of doubles

Which decimals are too large for a double to hold.
-/

set_option autoImplicit false

namespace TtyFrame.Decimal

/-- The least real that rounds past the greatest finite double. -/
def overflowBound : Nat := Nat.pow 2 1024 - Nat.pow 2 970

/-- The decimal `digits * 10 ^ place` rounds past the greatest finite double. -/
def overflows (digits : Nat) (place : Int) : Bool :=
  let length : Int := (Nat.toDigits 10 digits).length
  if digits = 0 ∨ length + place < 300 then false
  else if 320 < length + place then true
  else overflowBound * Nat.pow 10 (-place).toNat ≤ digits * Nat.pow 10 place.toNat

end TtyFrame.Decimal

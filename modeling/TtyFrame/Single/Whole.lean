import TtyFrame.Single.Remainder

/-!
# Whole parts of single-precision numbers

The nearest whole number, where a half goes away from zero, and the whole number that a
number is cut off to.
-/

set_option autoImplicit false

namespace TtyFrame.Single

/-- One, in units of `2 ^ (-149)`. -/
def one : Nat := Nat.pow 2 149

/-- The nearest whole number to a number given by its bits, as bits. -/
def roundBits (bits : UInt32) : UInt32 :=
  let sign := bits.toNat / Nat.pow 2 31
  let units := (Magnitude.ofBits bits.toNat).units
  UInt32.ofNat (sign * Nat.pow 2 31 + bitsOfUnits ((units + one / 2) / one * one))

def round (number : Float32) : Float32 := Float32.ofBits (roundBits number.toBits)

/-- A number cut off toward zero. An undefined one gives zero. -/
def toInt (number : Float32) : Int :=
  if number.isNaN then 0
  else
    let bits := number.toBits.toNat
    let size : Int := ((Magnitude.ofBits bits).units / one : Nat)
    if bits / Nat.pow 2 31 = 0 then size else -size

end TtyFrame.Single

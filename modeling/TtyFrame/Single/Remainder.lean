/-!
# Remainders of single-precision numbers

The exact remainder of a truncating division: it has the sign of the dividend, less
magnitude than the divisor, and no rounding error.
-/

set_option autoImplicit false

namespace TtyFrame.Single

/-- A finite magnitude `mantissa * 2 ^ (shift - 149)`. -/
structure Magnitude where
  mantissa : Nat
  shift : Nat
deriving DecidableEq, Repr

def Magnitude.ofBits (bits : Nat) : Magnitude :=
  let fraction := bits % Nat.pow 2 23
  let exponent := bits / Nat.pow 2 23 % Nat.pow 2 8
  if exponent = 0 then ⟨fraction, 0⟩ else ⟨Nat.pow 2 23 + fraction, exponent - 1⟩

/-- The magnitude in units of `2 ^ (-149)`. -/
def Magnitude.units (m : Magnitude) : Nat := m.mantissa * Nat.pow 2 m.shift

/-- The bits of a magnitude given in units of `2 ^ (-149)`; bits below its leading
twenty-four are cut off. -/
def bitsOfUnits (units : Nat) : Nat :=
  if units < Nat.pow 2 23 then units
  else
    let shift := Nat.log2 units - 23
    (shift + 1) * Nat.pow 2 23 + (units / Nat.pow 2 shift - Nat.pow 2 23)

/-- The remainder of two finite numbers given by their bits, as bits. -/
def remainderBits (dividend divisor : UInt32) : UInt32 :=
  let sign := dividend.toNat / Nat.pow 2 31
  let units := (Magnitude.ofBits dividend.toNat).units % (Magnitude.ofBits divisor.toNat).units
  UInt32.ofNat (sign * Nat.pow 2 31 + bitsOfUnits units)

/-- The remainder of two finite numbers, the second of them not zero. -/
def remainder (dividend divisor : Float32) : Float32 :=
  Float32.ofBits (remainderBits dividend.toBits divisor.toBits)

end TtyFrame.Single

import TtyFrame.Single.Whole
import Mathlib

/-! Finite single-precision numbers by their signs and how many units of `2 ^ (-149)` they
are. Those that twenty-four bits hold are packed and rounded without loss. -/

set_option autoImplicit false

namespace TtyFrame.Single

open Float.Model (Format UnpackedFloat)
open Float.Model.UnpackedFloat (Sign packComponents)

/-- How many bits a number of units has below its leading twenty-four. -/
def shift (units : Nat) : Nat := Nat.log2 units - 23

/-- Twenty-four bits hold all of a number of units, and the exponent is not too large. -/
structure Representable (units : Nat) : Prop where
  grid : 2 ^ shift units ∣ units
  small : shift units ≤ 253

private theorem two_pow_shift_le {units : Nat} (some : units ≠ 0) : 2 ^ shift units ≤ units :=
  (Nat.pow_le_pow_right (by decide) (Nat.sub_le ..)).trans (Nat.log2_self_le some)

/-- The leading bits of a number of units. -/
def mantissa (units : Nat) : Nat := units / 2 ^ shift units

theorem mantissa_pos {units : Nat} (some : units ≠ 0) : 0 < mantissa units :=
  Nat.div_pos (two_pow_shift_le some) (Nat.two_pow_pos _)

theorem mantissa_lt (units : Nat) : mantissa units < 2 ^ 24 := by
  unfold mantissa
  rw [Nat.div_lt_iff_lt_mul (Nat.two_pow_pos _), ← Nat.pow_add]
  refine Nat.lt_log2_self.trans_le (Nat.pow_le_pow_right (by decide) ?_)
  unfold shift
  omega

private theorem shift_eq_zero {units : Nat} (few : units < 2 ^ 23) : shift units = 0 := by
  unfold shift
  by_cases none : units = 0
  · subst none
    rfl
  · have := (Nat.log2_lt none).mpr few
    omega

theorem le_mantissa {units : Nat} (many : 2 ^ 23 ≤ units) : 2 ^ 23 ≤ mantissa units := by
  have some : units ≠ 0 := by omega
  have least : 23 ≤ Nat.log2 units := (Nat.le_log2 some).mpr many
  unfold mantissa
  rw [Nat.le_div_iff_mul_le (Nat.two_pow_pos _), ← Nat.pow_add]
  refine (Nat.pow_le_pow_right (by decide) ?_).trans (Nat.log2_self_le some)
  unfold shift
  omega

/-- The finite number of a sign and a number of units. -/
def ofUnits (sign : Sign) (units : Nat) : UnpackedFloat :=
  if none : units = 0 then .zero sign
  else .finite sign (mantissa units) (shift units - 149) (mantissa_pos none)

/-- The exponent of a number of units in its bits. -/
def biased (units : Nat) : Nat := if units < 2 ^ 23 then 0 else shift units + 1

private theorem packComponents_toNat (sign : Sign) (exponent : BitVec 8) (fraction : BitVec 23) :
    (packComponents .binary32 sign exponent fraction).toNat =
      sign.toBitVec.toNat * 2 ^ 31 + exponent.toNat * 2 ^ 23 + fraction.toNat := by
  have parts : (packComponents .binary32 sign exponent fraction).toNat =
      ((sign.toBitVec.toNat <<< 8 ||| exponent.toNat) <<< 23) ||| fraction.toNat := by
    unfold packComponents
    rw [BitVec.toNat_append, BitVec.toNat_append]
  rw [parts, ← Nat.shiftLeft_add_eq_or_of_lt exponent.isLt,
    ← Nat.shiftLeft_add_eq_or_of_lt fraction.isLt, Nat.shiftLeft_eq, Nat.shiftLeft_eq]
  omega

theorem pack_ofUnits {units : Nat} (sign : Sign) (representable : Representable units) :
    UnpackedFloat.pack .binary32 (ofUnits sign units) =
      packComponents .binary32 sign (BitVec.ofNat 8 (biased units))
        (BitVec.ofNat 23 (mantissa units)) := by
  have small := representable.small
  unfold ofUnits biased
  split
  · next none =>
    subst none
    rfl
  · next some =>
    have exponent : ((shift units : Int) - 149 + Format.binary32.exponentBias +
        (23 : Nat)).toNat = shift units + 1 := by
      change ((shift units : Int) - 149 + (127 : Nat) + (23 : Nat)).toNat = _
      omega
    have finite : ¬2 ^ 8 ≤ shift units + 1 + 1 := by omega
    rw [UnpackedFloat.pack]
    dsimp only
    rw [exponent, if_neg finite]
    by_cases few : units < 2 ^ 23
    · have size : mantissa units < 2 ^ 23 := by
        rw [mantissa, shift_eq_zero few, Nat.pow_zero, Nat.div_one]
        exact few
      have bits := (Nat.log2_lt (mantissa_pos some).ne').mpr size
      rw [if_neg (by change ¬_ = 24; omega), if_pos few]
    · have bits := (Nat.log2_eq_iff (mantissa_pos some).ne').mpr
        ⟨le_mantissa (Nat.le_of_not_lt few), mantissa_lt units⟩
      rw [if_pos (by rw [bits]; rfl), if_neg few]

private theorem finite_congr {sign : Sign} {size size' : Nat} {exponent exponent' : Int}
    {positive : 0 < size} {positive' : 0 < size'} (sizes : size = size')
    (exponents : exponent = exponent') :
    UnpackedFloat.finite sign size exponent positive =
      .finite sign size' exponent' positive' := by
  subst sizes exponents
  rfl

private theorem unpack_packComponents {units : Nat} (sign : Sign)
    (representable : Representable units) :
    UnpackedFloat.unpack .binary32
        (packComponents .binary32 sign (BitVec.ofNat 8 (biased units))
          (BitVec.ofNat 23 (mantissa units))) =
      ofUnits sign units := by
  have small := representable.small
  have most := mantissa_lt units
  have bits : (BitVec.ofNat 23 (mantissa units)).toNat = mantissa units % 2 ^ 23 :=
    BitVec.toNat_ofNat ..
  have exponent : (BitVec.ofNat 8 (biased units)).toNat = biased units := by
    rw [BitVec.toNat_ofNat]
    unfold biased
    split <;> omega
  have finite : BitVec.ofNat 8 (biased units) ≠ -1#8 := by
    intro endless
    have number := congrArg BitVec.toNat endless
    rw [exponent] at number
    change biased units = 255 at number
    unfold biased at number
    split at number <;> omega
  unfold UnpackedFloat.unpack
  simp only [UnpackedFloat.unpackMantissa_packComponents,
    UnpackedFloat.unpackExponent_packComponents, UnpackedFloat.unpackSign_packComponents,
    Sign.ofBitVec_toBitVec]
  rw [if_neg finite]
  unfold ofUnits
  by_cases few : units < 2 ^ 23
  · have size : mantissa units = units := by
      rw [mantissa, shift_eq_zero few, Nat.pow_zero, Nat.div_one]
    rw [size, Nat.mod_eq_of_lt few] at bits
    have lowest : biased units = 0 := if_pos few
    have none : BitVec.ofNat 23 (mantissa units) = 0#23 ↔ units = 0 := by
      rw [← BitVec.toNat_inj, size, bits]
      rfl
    rw [if_pos (congrArg (BitVec.ofNat 8) lowest)]
    by_cases zero : units = 0
    · rw [dif_pos (none.mpr zero), dif_pos zero]
    · rw [dif_neg (mt none.mp zero), dif_neg zero]
      refine finite_congr (by rw [size, bits]) ?_
      rw [exponent, lowest, shift_eq_zero few]
      rfl
  · have least := le_mantissa (Nat.le_of_not_lt few)
    have higher : biased units = shift units + 1 := if_neg few
    have some : units ≠ 0 := by omega
    have normal : BitVec.ofNat 8 (biased units) ≠ 0#8 := by
      rw [ne_eq, ← BitVec.toNat_inj, exponent, higher]
      exact Nat.succ_ne_zero _
    rw [if_neg normal, dif_neg some]
    refine finite_congr ?_ ?_
    · rw [BitVec.toNat_append, ← Nat.shiftLeft_add_eq_or_of_lt (BitVec.isLt _), bits,
        Nat.shiftLeft_eq]
      change 1 * 2 ^ 23 + mantissa units % 2 ^ 23 = mantissa units
      omega
    · rw [exponent, higher]
      change ((shift units + 1 : Nat) : Int) - ((127 : Nat) + (23 : Nat)) = _
      omega

/-- The bits of a sign and a number of units. -/
def signedBits (sign : Sign) (units : Nat) : Nat :=
  sign.toBitVec.toNat * 2 ^ 31 + bitsOfUnits units

private theorem bitsOfUnits_eq (units : Nat) :
    bitsOfUnits units = biased units * 2 ^ 23 + mantissa units % 2 ^ 23 := by
  have most := mantissa_lt units
  unfold biased
  change (if units < 2 ^ 23 then units
    else (shift units + 1) * 2 ^ 23 + (mantissa units - 2 ^ 23)) = _
  by_cases few : units < 2 ^ 23
  · rw [if_pos few, if_pos few, mantissa, shift_eq_zero few, Nat.pow_zero, Nat.div_one,
      Nat.mod_eq_of_lt few, Nat.zero_mul, Nat.zero_add]
  · have least := le_mantissa (Nat.le_of_not_lt few)
    rw [if_neg few, if_neg few]
    omega

theorem Representable.mantissa_mul {units : Nat} (representable : Representable units) :
    mantissa units * 2 ^ shift units = units := Nat.div_mul_cancel representable.grid

private theorem biased_lt {units : Nat} (representable : Representable units) :
    biased units < 255 := by
  have small := representable.small
  unfold biased
  split <;> omega

private theorem packComponents_signedBits {units : Nat} (sign : Sign)
    (representable : Representable units) :
    (packComponents .binary32 sign (BitVec.ofNat 8 (biased units))
      (BitVec.ofNat 23 (mantissa units))).toNat = signedBits sign units := by
  have small := biased_lt representable
  rw [packComponents_toNat, signedBits, bitsOfUnits_eq, BitVec.toNat_ofNat, BitVec.toNat_ofNat]
  omega

/-- A number of units is read off its bits. -/
theorem ofBits_signedBits {units : Nat} (sign : Sign) (representable : Representable units) :
    (Magnitude.ofBits (signedBits sign units)).units = units := by
  have small := biased_lt representable
  have most := mantissa_lt units
  have fraction : signedBits sign units % 2 ^ 23 = mantissa units % 2 ^ 23 := by
    rw [signedBits, bitsOfUnits_eq]
    omega
  have exponent : signedBits sign units / 2 ^ 23 % 2 ^ 8 = biased units := by
    rw [signedBits, bitsOfUnits_eq]
    omega
  change (if signedBits sign units / 2 ^ 23 % 2 ^ 8 = 0 then
    (⟨signedBits sign units % 2 ^ 23, 0⟩ : Magnitude)
    else ⟨2 ^ 23 + signedBits sign units % 2 ^ 23,
      signedBits sign units / 2 ^ 23 % 2 ^ 8 - 1⟩).units = units
  rw [fraction, exponent]
  by_cases few : units < 2 ^ 23
  · have lowest : biased units = 0 := if_pos few
    rw [lowest, if_pos rfl, mantissa, shift_eq_zero few, Nat.pow_zero, Nat.div_one,
      Nat.mod_eq_of_lt few]
    exact Nat.mul_one units
  · have least := le_mantissa (Nat.le_of_not_lt few)
    have higher : biased units = shift units + 1 := if_neg few
    have whole : 2 ^ 23 + mantissa units % 2 ^ 23 = mantissa units := by omega
    rw [higher, if_neg (Nat.succ_ne_zero _), whole]
    exact representable.mantissa_mul

private theorem signedBits_sign {units : Nat} (sign : Sign) (representable : Representable units) :
    signedBits sign units / 2 ^ 31 = sign.toBitVec.toNat := by
  have small := biased_lt representable
  rw [signedBits, bitsOfUnits_eq]
  omega

/-- A finite number has a sign and is a number of units. -/
structure Finite (number : Float32) (sign : Sign) (units : Nat) : Prop where
  representable : Representable units
  bits : number.toBits.toNat = signedBits sign units

theorem Finite.unpack {number : Float32} {sign : Sign} {units : Nat}
    (finite : Finite number sign units) : number.toModel.unpack = ofUnits sign units := by
  have bits : number.toModel.toBits.toBitVec =
      packComponents .binary32 sign (BitVec.ofNat 8 (biased units))
        (BitVec.ofNat 23 (mantissa units)) := by
    refine BitVec.eq_of_toNat_eq ?_
    rw [packComponents_signedBits sign finite.representable]
    exact finite.bits
  rw [Float32.Model.unpack, bits]
  exact unpack_packComponents sign finite.representable

theorem finite_pack {units : Nat} (sign : Sign) (representable : Representable units) :
    Finite (.ofModel (.pack (ofUnits sign units))) sign units where
  representable := representable
  bits := by
    rw [← packComponents_signedBits sign representable, ← pack_ofUnits sign representable]
    rfl

private theorem signedBits_lt {units : Nat} (sign : Sign) (representable : Representable units) :
    signedBits sign units < 2 ^ 32 := by
  have small := biased_lt representable
  rw [signedBits, bitsOfUnits_eq]
  omega

theorem finite_ofBits {units : Nat} (sign : Sign) (representable : Representable units) :
    Finite (.ofBits (.ofNat (signedBits sign units))) sign units := by
  have bits : (UInt32.ofNat (signedBits sign units)).toBitVec =
      packComponents .binary32 sign (BitVec.ofNat 8 (biased units))
        (BitVec.ofNat 23 (mantissa units)) := by
    refine BitVec.eq_of_toNat_eq ?_
    rw [packComponents_signedBits sign representable, UInt32.toNat_toBitVec, UInt32.toNat_ofNat']
    exact Nat.mod_eq_of_lt (signedBits_lt sign representable)
  rw [Float32.ofBits, Float32.Model.ofBits, bits, unpack_packComponents sign representable]
  exact finite_pack sign representable

theorem Finite.sign_eq {number : Float32} {sign : Sign} {units : Nat}
    (finite : Finite number sign units) :
    number.toBits.toNat / Nat.pow 2 31 = sign.toBitVec.toNat := by
  rw [finite.bits]
  exact signedBits_sign sign finite.representable

theorem Finite.units_eq {number : Float32} {sign : Sign} {units : Nat}
    (finite : Finite number sign units) :
    (Magnitude.ofBits number.toBits.toNat).units = units := by
  rw [finite.bits, ofBits_signedBits sign finite.representable]

end TtyFrame.Single

import TtyFrame.Proofs.Single.Arithmetic

/-! Whole numbers up to 2 ^ 24 as single-precision numbers. Their sums, remainders and whole
quotients are exact. -/

set_option autoImplicit false

namespace TtyFrame.Single

open Float.Model (Format UnpackedFloat totalExponent)
open Float.Model.UnpackedFloat (Sign divCore)

private theorem one_eq : one = 2 ^ 149 := rfl

theorem one_pos : 0 < one := Nat.two_pow_pos 149

private theorem shift_whole {size : Nat} (some : size ≠ 0) :
    shift (size * one) = Nat.log2 size + 126 := by
  rw [shift, one_eq, log2_mul_two_pow some]
  rfl

theorem representable_whole {size : Nat} (small : size ≤ 2 ^ 24) : Representable (size * one) := by
  by_cases none : size = 0
  · subst none
    rw [Nat.zero_mul]
    exact ⟨dvd_zero _, Nat.zero_le _⟩
  have bits := shift_whole none
  rcases Nat.lt_or_eq_of_le small with few | rfl
  · have leading : Nat.log2 size < 24 := (Nat.log2_lt none).mpr few
    refine ⟨?_, by omega⟩
    rw [bits]
    exact Dvd.dvd.mul_left (Nat.pow_dvd_pow 2 (by omega)) size
  · have leading : Nat.log2 (2 ^ 24) = 24 := Nat.log2_two_pow
    refine ⟨?_, by omega⟩
    rw [bits, leading, one_eq, ← Nat.pow_add]
    exact Nat.pow_dvd_pow 2 (by decide)

/-- A number that is a whole one of at most 2 ^ 24, which twenty-four bits hold. -/
def IsWhole (number : Float32) (whole : Int) : Prop :=
  ∃ sign size, size ≤ 2 ^ 24 ∧ Finite number sign (size * one) ∧ sign.apply size = whole

theorem IsWhole.stands {number : Float32} {whole : Int} (isWhole : IsWhole number whole) :
    Stands number (whole * one) := by
  obtain ⟨sign, size, -, finite, rfl⟩ := isWhole
  exact ⟨sign, _, finite, by rw [← apply_mul, Int.natCast_mul]⟩

theorem IsWhole.small {number : Float32} {whole : Int} (isWhole : IsWhole number whole) :
    whole.natAbs ≤ 2 ^ 24 := by
  obtain ⟨sign, size, small, -, rfl⟩ := isWhole
  rw [apply_natAbs]
  exact small

theorem Stands.isWhole {number : Float32} {whole : Int} (stands : Stands number (whole * one))
    (small : whole.natAbs ≤ 2 ^ 24) : IsWhole number whole := by
  obtain ⟨sign, units, finite, signed⟩ := stands
  have size : units = whole.natAbs * one := by
    rw [← Int.natAbs_natCast units, ← apply_natAbs sign, signed, Int.natAbs_mul]
    rfl
  subst size
  refine ⟨sign, whole.natAbs, small, finite, ?_⟩
  refine Int.eq_of_mul_eq_mul_right (Int.natCast_ne_zero.mpr one_pos.ne') ?_
  rw [← signed, ← apply_mul, Int.natCast_mul]

theorem IsWhole.neg {number : Float32} {whole : Int} (isWhole : IsWhole number whole) :
    IsWhole (-number) (-whole) := by
  refine Stands.isWhole ?_ (by rw [Int.natAbs_neg]; exact isWhole.small)
  rw [Int.neg_mul]
  exact isWhole.stands.neg

section

variable {left right : Float32} {whole whole' : Int} (isWhole : IsWhole left whole)
  (isWhole' : IsWhole right whole')
include isWhole isWhole'

theorem IsWhole.add (small : (whole + whole').natAbs ≤ 2 ^ 24) :
    IsWhole (left + right) (whole + whole') := by
  refine Stands.isWhole ?_ small
  rw [Int.add_mul]
  refine isWhole.stands.add isWhole'.stands ?_
  rw [← Int.add_mul, Int.natAbs_mul]
  exact representable_whole small

theorem IsWhole.sub (small : (whole - whole').natAbs ≤ 2 ^ 24) :
    IsWhole (left - right) (whole - whole') := by
  refine Stands.isWhole ?_ small
  rw [Int.sub_mul]
  refine isWhole.stands.sub isWhole'.stands ?_
  rw [← Int.sub_mul, Int.natAbs_mul]
  exact representable_whole small

theorem IsWhole.lt_iff : left < right ↔ whole < whole' := by
  rw [isWhole.stands.lt_iff isWhole'.stands]
  exact Int.mul_lt_mul_right (Int.natCast_pos.mpr one_pos)

end

theorem Finite.remainder {left right : Float32} {sign sign' : Sign} {units units' : Nat}
    (finite : Finite left sign units) (finite' : Finite right sign' units')
    (representable : Representable (units % units')) :
    Finite (remainder left right) sign (units % units') := by
  rw [Single.remainder, remainderBits, finite.sign_eq, finite.units_eq, finite'.units_eq]
  exact finite_ofBits sign representable

theorem IsWhole.remainder {left right : Float32} {whole whole' : Int}
    (isWhole : IsWhole left whole) (isWhole' : IsWhole right whole') :
    IsWhole (remainder left right) (whole.tmod whole') := by
  obtain ⟨sign, size, small, finite, rfl⟩ := isWhole
  obtain ⟨sign', size', small', finite', rfl⟩ := isWhole'
  have rest : size % size' ≤ 2 ^ 24 := (Nat.mod_le ..).trans small
  have units : size * one % (size' * one) = size % size' * one := Nat.mul_mod_mul_right ..
  have result := finite.remainder finite' (by rw [units]; exact representable_whole rest)
  rw [units] at result
  refine ⟨sign, size % size', rest, result, ?_⟩
  cases sign <;> cases sign' <;>
    simp only [Sign.apply, Int.neg_tmod, Int.tmod_neg, Int.ofNat_tmod]

private theorem log2_mul_lt {left right : Nat} (some : left * right ≠ 0) :
    Nat.log2 (left * right) < Nat.log2 left + Nat.log2 right + 2 := by
  refine (Nat.log2_lt some).mpr ?_
  calc left * right
      < 2 ^ (Nat.log2 left + 1) * 2 ^ (Nat.log2 right + 1) :=
        Nat.mul_lt_mul'' Nat.lt_log2_self Nat.lt_log2_self
    _ = 2 ^ (Nat.log2 left + Nat.log2 right + 2) := by
        rw [← Nat.pow_add]
        congr 1
        omega

private theorem log2_mantissa_whole {size : Nat} (some : size ≠ 0) :
    Nat.log2 (mantissa (size * one)) = 23 := by
  have many : 2 ^ 23 ≤ size * one :=
    (Nat.pow_le_pow_right (by decide) (by decide)).trans
      (Nat.le_mul_of_pos_left (2 ^ 149) (Nat.pos_of_ne_zero some))
  have leading := mantissa_pos (Nat.mul_ne_zero some one_pos.ne')
  exact (Nat.log2_eq_iff leading.ne').mpr ⟨le_mantissa many, mantissa_lt _⟩

section

variable {quotient divisor : Nat} (some : quotient ≠ 0) (some' : divisor ≠ 0)
  (small : quotient * divisor ≤ 2 ^ 24)
include some some' small

private theorem divCore_exact {more less : Nat} (isMore : shift (quotient * divisor * one) = more)
    (isLess : shift (divisor * one) = less) :
    divCore .binary32 (mantissa (quotient * divisor * one)) ((more : Int) - 149)
        (mantissa (divisor * one)) ((less : Int) - 149) =
      (quotient * 2 ^ (24 + less - more), ((125 + more - less : Nat) : Int) - 149, .exact) ∧
    24 + less - more + (125 + more - less) = 149 ∧
    125 + more - less ≤ shift (quotient * one) := by
  have product := Nat.mul_ne_zero some some'
  have divisorSmall : divisor ≤ 2 ^ 24 :=
    (Nat.le_mul_of_pos_left divisor (Nat.pos_of_ne_zero some)).trans small
  have whole := (representable_whole small).mantissa_mul
  have whole' := (representable_whole divisorSmall).mantissa_mul
  have ordered : less ≤ more := by
    rw [← isMore, ← isLess]
    exact shift_mono (Nat.mul_le_mul_right one
      (Nat.le_mul_of_pos_left divisor (Nat.pos_of_ne_zero some)))
  have found : 125 + more - less ≤ shift (quotient * one) ∧ more ≤ less + 24 := by
    have close := log2_mul_lt product
    have most := (Nat.log2_lt product).mpr (Nat.lt_of_le_of_lt small (by decide : _ < 2 ^ 25))
    rw [shift_whole product] at isMore
    rw [shift_whole some'] at isLess
    rw [shift_whole some]
    omega
  have target : min ((more : Int) - 149 - ((less : Int) - 149))
      (Format.binary32.targetExponent
        (totalExponent (mantissa (quotient * divisor * one)) ((more : Int) - 149) -
          totalExponent (mantissa (divisor * one)) ((less : Int) - 149))) =
        ((125 + more - less : Nat) : Int) - 149 := by
    rw [totalExponent, totalExponent, log2_mantissa_whole product, log2_mantissa_whole some']
    change min _ (max (((23 : Nat) : Int) + 1 + ((more : Int) - 149) -
      (((23 : Nat) : Int) + 1 + ((less : Int) - 149)) - 24) (-149)) = _
    omega
  have count : ((more : Int) - 149 - ((less : Int) - 149) -
      (((125 + more - less : Nat) : Int) - 149)).toNat = 24 := by omega
  have multiple : mantissa (quotient * divisor * one) <<< 24 =
      quotient * 2 ^ (24 + less - more) * mantissa (divisor * one) := by
    refine Nat.eq_of_mul_eq_mul_right (Nat.two_pow_pos more) ?_
    rw [isMore] at whole
    rw [isLess] at whole'
    calc mantissa (quotient * divisor * one) <<< 24 * 2 ^ more
        = mantissa (quotient * divisor * one) * 2 ^ more * 2 ^ 24 := by
          rw [Nat.shiftLeft_eq, Nat.mul_right_comm]
      _ = quotient * (mantissa (divisor * one) * 2 ^ less) * 2 ^ 24 := by
          rw [whole, whole', Nat.mul_assoc quotient]
      _ = quotient * mantissa (divisor * one) * 2 ^ (24 + less - more + more) := by
          rw [Nat.sub_add_cancel (by omega), Nat.pow_add]
          ring
      _ = quotient * 2 ^ (24 + less - more) * mantissa (divisor * one) * 2 ^ more := by
          rw [Nat.pow_add]
          ring
  have divisible : 0 < mantissa (divisor * one) :=
    mantissa_pos (Nat.mul_ne_zero some' one_pos.ne')
  refine ⟨?_, by omega, found.1⟩
  rw [divCore, target, count, multiple, Nat.mul_div_cancel _ divisible, Nat.mul_mod_left]
  rfl

theorem div_ofUnits (sign : Sign) :
    UnpackedFloat.div .binary32 (ofUnits sign (quotient * divisor * one))
        (ofUnits .positive (divisor * one)) =
      ofUnits sign (quotient * one) := by
  have product := Nat.mul_ne_zero (Nat.mul_ne_zero some some') one_pos.ne'
  have quotientSmall : quotient ≤ 2 ^ 24 :=
    (Nat.le_mul_of_pos_right quotient (Nat.pos_of_ne_zero some')).trans small
  obtain ⟨divided, powers, dropped⟩ := divCore_exact some some' small rfl rfl
  have same : sign / .positive = sign := by cases sign <;> rfl
  rw [ofUnits, dif_neg product, ofUnits, dif_neg (Nat.mul_ne_zero some' one_pos.ne')]
  simp only [UnpackedFloat.div, divided, same]
  refine roundWithAccuracy_exact ?_ ?_ (representable_whole quotientSmall) sign dropped
  · rw [Nat.mul_assoc, ← Nat.pow_add, powers, one_eq]
  · exact Nat.mul_ne_zero some (Nat.two_pow_pos _).ne'

end

theorem IsWhole.div {left right : Float32} {quotient : Int} {divisor : Nat}
    (isWhole : IsWhole left (quotient * divisor)) (isWhole' : IsWhole right divisor)
    (some : divisor ≠ 0) : IsWhole (left / right) quotient := by
  obtain ⟨sign, size, small, finite, signed⟩ := isWhole
  obtain ⟨sign', size', small', finite', signed'⟩ := isWhole'
  have positive : sign' = .positive ∧ size' = divisor := by
    cases sign' with
    | negative =>
      change -(size' : Int) = divisor at signed'
      omega
    | positive => exact ⟨rfl, Int.ofNat_inj.mp signed'⟩
  obtain ⟨rfl, rfl⟩ := positive
  have sizes : size = quotient.natAbs * size' := by
    rw [← Int.natAbs_natCast size, ← apply_natAbs sign, signed, Int.natAbs_mul, Int.natAbs_natCast]
  subst sizes
  have quotientSmall : quotient.natAbs ≤ 2 ^ 24 :=
    (Nat.le_mul_of_pos_right _ (Nat.pos_of_ne_zero some)).trans small
  have divided : UnpackedFloat.div .binary32 (ofUnits sign (quotient.natAbs * size' * one))
      (ofUnits .positive (size' * one)) = ofUnits sign (quotient.natAbs * one) := by
    by_cases none : quotient.natAbs = 0
    · rw [none, Nat.zero_mul, Nat.zero_mul, ofUnits_zero, ofUnits,
        dif_neg (Nat.mul_ne_zero some one_pos.ne')]
      cases sign <;> rfl
    · exact div_ofUnits none some small sign
  refine ⟨sign, quotient.natAbs, quotientSmall, ?_, ?_⟩
  · change Finite (.ofModel (.pack (.div .binary32 left.toModel.unpack right.toModel.unpack))) _ _
    rw [finite.unpack, finite'.unpack, divided]
    exact finite_pack sign (representable_whole quotientSmall)
  · refine Int.eq_of_mul_eq_mul_right (Int.natCast_ne_zero.mpr some) ?_
    rw [← apply_mul, ← signed, Int.natCast_mul]

theorem IsWhole.round {number : Float32} {whole : Int} (isWhole : IsWhole number whole) :
    IsWhole (round number) whole := by
  obtain ⟨sign, size, small, finite, signed⟩ := isWhole
  have kept : (size * one + one / 2) / one * one = size * one := by
    rw [Nat.add_comm, Nat.add_mul_div_right _ _ one_pos,
      Nat.div_eq_of_lt (Nat.div_lt_self one_pos (by decide)), Nat.zero_add]
  refine ⟨sign, size, small, ?_, signed⟩
  rw [Single.round, roundBits, finite.sign_eq, finite.units_eq, kept]
  exact finite_ofBits sign (representable_whole small)

theorem IsWhole.toInt {number : Float32} {whole : Int} (isWhole : IsWhole number whole) :
    toInt number = whole := by
  obtain ⟨sign, size, small, finite, rfl⟩ := isWhole
  have defined : number.isNaN = false := by
    rw [Float32.isNaN, Float32.Model.isNaN, finite.unpack, ofUnits]
    split <;> rfl
  rw [Single.toInt, defined, if_neg Bool.false_ne_true]
  dsimp only
  rw [finite.sign_eq, finite.units_eq, Nat.mul_div_cancel size one_pos]
  cases sign <;> rfl

theorem isWhole_toFloat32 {word : UInt64} (small : word.toNat ≤ 2 ^ 24) :
    IsWhole word.toFloat32 word.toNat := by
  have units : (word.toNat : Int).natAbs * 2 ^ 149 = word.toNat * one := by
    rw [Int.natAbs_natCast, one_eq]
  have exponent : ((149 : Nat) : Int) - 149 = 0 := rfl
  obtain ⟨sign, rounded, signed⟩ := normalize_exact units (representable_whole small) .positive
  rw [exponent] at rounded
  refine Stands.isWhole ⟨sign, word.toNat * one, ?_, ?_⟩ small
  · change Finite (.ofModel (.pack (.normalize .binary32 (word.toNat : Int) 0 .positive))) _ _
    rw [rounded]
    exact finite_pack sign (representable_whole small)
  · rw [signed, one_eq]
    push_cast
    rfl

end TtyFrame.Single

import TtyFrame.Proofs.Single.Rounding

/-! Sums, remainders and orders of single-precision numbers that are numbers of units. They
are exact where twenty-four bits hold what they give. -/

set_option autoImplicit false

namespace TtyFrame.Single

open Float.Model (Format UnpackedFloat)
open Float.Model.UnpackedFloat (Sign decreaseExponent)

theorem apply_natAbs (sign : Sign) (size : Int) : (sign.apply size).natAbs = size.natAbs := by
  cases sign with
  | negative => exact Int.natAbs_neg size
  | positive => rfl

private theorem apply_eq_zero_iff {sign : Sign} {size : Int} : sign.apply size = 0 ↔ size = 0 := by
  rw [← Int.natAbs_eq_zero, apply_natAbs, Int.natAbs_eq_zero]

theorem apply_mul (sign : Sign) (size factor : Int) :
    sign.apply (size * factor) = sign.apply size * factor := by
  cases sign with
  | negative => exact (Int.neg_mul size factor).symm
  | positive => rfl

private theorem neg_apply (sign : Sign) (size : Int) : (-sign).apply size = -sign.apply size := by
  cases sign with
  | negative => exact (Int.neg_neg size).symm
  | positive => rfl

theorem ofUnits_zero (sign : Sign) : ofUnits sign 0 = .zero sign := dif_pos rfl

private theorem neg_ofUnits (sign : Sign) (units : Nat) :
    (ofUnits sign units).neg = ofUnits (-sign) units := by
  unfold ofUnits
  split <;> rfl

/-- Taking a number away is adding the one of the other sign. -/
theorem sub_eq_add (left right : UnpackedFloat) :
    UnpackedFloat.sub .binary32 left right = .add .binary32 left right.neg := by
  cases left <;> cases right <;> try rfl
  simp only [UnpackedFloat.sub, UnpackedFloat.add, UnpackedFloat.neg, neg_apply,
    Int.sub_eq_add_neg]

private theorem decreaseExponent_eq {units least : Nat} (representable : Representable units)
    (lower : least ≤ shift units) :
    (decreaseExponent (mantissa units) ((shift units : Int) - 149) ((least : Int) - 149)).1 *
      2 ^ least = units := by
  have count : ((shift units : Int) - 149 - ((least : Int) - 149)).toNat = shift units - least := by
    omega
  rw [decreaseExponent, count, Nat.shiftLeft_eq, Nat.mul_assoc, ← Nat.pow_add,
    Nat.sub_add_cancel lower, representable.mantissa_mul]

private theorem add_zero_ofUnits (sign sign' : Sign) (units : Nat) :
    ∃ sign'', UnpackedFloat.add .binary32 (.zero sign) (ofUnits sign' units) =
        ofUnits sign'' units ∧
      sign''.apply units = sign'.apply units := by
  unfold ofUnits
  split
  · next none =>
    subst none
    have zero (sign : Sign) : sign.apply (0 : Nat) = 0 := apply_eq_zero_iff.mpr rfl
    rw [UnpackedFloat.add]
    split
    · exact ⟨sign, rfl, by rw [zero, zero]⟩
    · exact ⟨.positive, rfl, by rw [zero, zero]⟩
  · exact ⟨sign', rfl, rfl⟩

theorem add_ofUnits {sign sign' : Sign} {size size' units : Nat} (left : Representable size)
    (right : Representable size') (fits : Representable units)
    (sum : (sign.apply size + sign'.apply size').natAbs = units) :
    ∃ sign'', UnpackedFloat.add .binary32 (ofUnits sign size) (ofUnits sign' size') =
        ofUnits sign'' units ∧
      sign''.apply units = sign.apply size + sign'.apply size' := by
  by_cases none : size = 0
  · have nothing : sign.apply size = 0 := apply_eq_zero_iff.mpr (congrArg _ none)
    rw [nothing, Int.zero_add, apply_natAbs, Int.natAbs_natCast] at sum
    subst none sum
    rw [ofUnits_zero, nothing, Int.zero_add]
    exact add_zero_ofUnits ..
  by_cases none' : size' = 0
  · have nothing : sign'.apply size' = 0 := apply_eq_zero_iff.mpr (congrArg _ none')
    rw [nothing, Int.add_zero, apply_natAbs, Int.natAbs_natCast] at sum
    subst none' sum
    rw [nothing, Int.add_zero]
    refine ⟨sign, ?_, rfl⟩
    rw [ofUnits_zero, ofUnits, dif_neg none]
    rfl
  · obtain ⟨least, isLeast⟩ : ∃ least, min (shift size) (shift size') = least := ⟨_, rfl⟩
    have wide := decreaseExponent_eq left (show least ≤ _ by omega)
    have wide' := decreaseExponent_eq right (show least ≤ _ by omega)
    have exponent : min ((shift size : Int) - 149) ((shift size' : Int) - 149) =
        (least : Int) - 149 := by omega
    rw [ofUnits, dif_neg none, ofUnits, dif_neg none']
    simp only [UnpackedFloat.add, exponent]
    have scaled : (sign.apply (decreaseExponent (mantissa size) ((shift size : Int) - 149)
          ((least : Int) - 149)).1 + sign'.apply (decreaseExponent (mantissa size')
          ((shift size' : Int) - 149) ((least : Int) - 149)).1) * (2 ^ least : Nat) =
        sign.apply size + sign'.apply size' := by
      rw [Int.add_mul, ← apply_mul, ← apply_mul, ← Int.natCast_mul, ← Int.natCast_mul, wide, wide']
    have number : (sign.apply (decreaseExponent (mantissa size) ((shift size : Int) - 149)
          ((least : Int) - 149)).1 + sign'.apply (decreaseExponent (mantissa size')
          ((shift size' : Int) - 149) ((least : Int) - 149)).1).natAbs * 2 ^ least = units := by
      rw [← sum, ← scaled, Int.natAbs_mul, Int.natAbs_natCast]
    obtain ⟨sign'', rounded, signed⟩ := normalize_exact number fits .positive
    refine ⟨sign'', rounded, ?_⟩
    rw [signed, ← scaled]
    push_cast
    rfl

theorem shift_mono {size size' : Nat} (least : size ≤ size') : shift size ≤ shift size' := by
  unfold shift
  by_cases none : size = 0
  · subst none
    exact Nat.zero_le _
  · have lower : Nat.log2 size ≤ Nat.log2 size' :=
      (Nat.le_log2 (by omega)).mpr ((Nat.log2_self_le none).trans least)
    omega

private theorem compare_mantissas {size size' : Nat} (left : Representable size)
    (right : Representable size') :
    (compare ((shift size : Int) - 149) ((shift size' : Int) - 149)).then
        (compare (mantissa size) (mantissa size')) = compare (size : Int) (size' : Int) := by
  rcases Nat.lt_trichotomy (shift size) (shift size') with below | same | above
  · have less : size < size' := by
      by_contra least
      have := shift_mono (Nat.le_of_not_lt least)
      omega
    rw [Int.compare_eq_lt.mpr (by omega), Int.compare_eq_lt.mpr (by omega)]
    rfl
  · have whole := left.mantissa_mul
    have whole' := right.mantissa_mul
    rw [same] at whole
    have units := Nat.two_pow_pos (shift size')
    rw [same, Int.compare_eq_eq.mpr rfl]
    rcases Nat.lt_trichotomy (mantissa size) (mantissa size') with below | equal | above
    · have less := Nat.mul_lt_mul_of_pos_right below units
      rw [Nat.compare_eq_lt.mpr below, Int.compare_eq_lt.mpr (by omega)]
      rfl
    · have equals : size = size' := by rw [← whole, equal, whole']
      rw [Nat.compare_eq_eq.mpr equal, Int.compare_eq_eq.mpr (congrArg _ equals)]
      rfl
    · have more := Nat.mul_lt_mul_of_pos_right above units
      rw [Nat.compare_eq_gt.mpr above, Int.compare_eq_gt.mpr (by omega)]
      rfl
  · have more : size' < size := by
      by_contra most
      have := shift_mono (Nat.le_of_not_lt most)
      omega
    rw [Int.compare_eq_gt.mpr (by omega), Int.compare_eq_gt.mpr (by omega)]
    rfl

private theorem compare_neg (left right : Int) :
    compare (-left) (-right) = (compare left right).swap := by
  rcases Int.lt_trichotomy left right with below | rfl | above
  · rw [Int.compare_eq_lt.mpr below, Int.compare_eq_gt.mpr (by omega)]
    rfl
  · rw [Int.compare_eq_eq.mpr rfl, Int.compare_eq_eq.mpr rfl]
    rfl
  · rw [Int.compare_eq_gt.mpr above, Int.compare_eq_lt.mpr (by omega)]
    rfl

theorem compare_ofUnits {sign sign' : Sign} {size size' : Nat} (left : Representable size)
    (right : Representable size') :
    UnpackedFloat.compare (ofUnits sign size) (ofUnits sign' size') =
      some (compare (sign.apply size) (sign'.apply size')) := by
  have order := compare_mantissas left right
  have zero (sign : Sign) : sign.apply (0 : Nat) = 0 := apply_eq_zero_iff.mpr rfl
  have below {size : Nat} (more : size ≠ 0) : Sign.negative.apply size < 0 := by
    change -(size : Int) < 0
    omega
  have above {size : Nat} (more : size ≠ 0) : 0 < Sign.positive.apply size := by
    change 0 < (size : Int)
    omega
  unfold ofUnits
  split <;> split
  · next none none' =>
    subst none none'
    rw [zero, zero]
    rfl
  · next none more' =>
    subst none
    rw [zero]
    cases sign' with
    | negative => exact congrArg some (Int.compare_eq_gt.mpr (below more')).symm
    | positive => exact congrArg some (Int.compare_eq_lt.mpr (above more')).symm
  · next more none' =>
    subst none'
    rw [zero]
    cases sign with
    | negative => exact congrArg some (Int.compare_eq_lt.mpr (below more)).symm
    | positive => exact congrArg some (Int.compare_eq_gt.mpr (above more)).symm
  · next more more' =>
    cases sign with
    | negative =>
      cases sign' with
      | negative =>
        change _ = some (compare (-(size : Int)) (-(size' : Int)))
        rw [compare_neg, ← order]
        rfl
      | positive =>
        exact congrArg some (Int.compare_eq_lt.mpr ((below more).trans (above more'))).symm
    | positive =>
      cases sign' with
      | negative =>
        exact congrArg some (Int.compare_eq_gt.mpr ((below more').trans (above more))).symm
      | positive => exact congrArg some order

/-- A number that is so many units, with a sign. -/
def Stands (number : Float32) (units : Int) : Prop :=
  ∃ sign size, Finite number sign size ∧ sign.apply size = units

theorem Stands.isFinite {number : Float32} {units : Int} (stands : Stands number units) :
    number.isFinite = true := by
  obtain ⟨sign, size, finite, -⟩ := stands
  rw [Float32.isFinite, Float32.Model.isFinite, finite.unpack, ofUnits]
  split <;> rfl

theorem Stands.neg {number : Float32} {units : Int} (stands : Stands number units) :
    Stands (-number) (-units) := by
  obtain ⟨sign, size, finite, rfl⟩ := stands
  refine ⟨-sign, size, ?_, neg_apply ..⟩
  change Finite (.ofModel (.pack number.toModel.unpack.neg)) _ _
  rw [finite.unpack, neg_ofUnits]
  exact finite_pack _ finite.representable

section

variable {left right : Float32} {units units' : Int} (stands : Stands left units)
  (stands' : Stands right units')
include stands stands'

theorem Stands.add (fits : Representable (units + units').natAbs) :
    Stands (left + right) (units + units') := by
  obtain ⟨sign, size, finite, rfl⟩ := stands
  obtain ⟨sign', size', finite', rfl⟩ := stands'
  obtain ⟨sign'', sum, signed⟩ := add_ofUnits finite.representable finite'.representable fits rfl
  refine ⟨sign'', _, ?_, signed⟩
  change Finite (.ofModel (.pack (.add .binary32 left.toModel.unpack right.toModel.unpack))) _ _
  rw [finite.unpack, finite'.unpack, sum]
  exact finite_pack _ fits

theorem Stands.sub (fits : Representable (units - units').natAbs) :
    Stands (left - right) (units - units') := by
  obtain ⟨sign, size, finite, rfl⟩ := stands
  obtain ⟨sign', size', finite', rfl⟩ := stands'
  rw [Int.sub_eq_add_neg, ← neg_apply] at fits ⊢
  obtain ⟨sign'', sum, signed⟩ := add_ofUnits finite.representable finite'.representable fits rfl
  refine ⟨sign'', _, ?_, signed⟩
  change Finite (.ofModel (.pack (.sub .binary32 left.toModel.unpack right.toModel.unpack))) _ _
  rw [sub_eq_add, finite.unpack, finite'.unpack, neg_ofUnits, sum]
  exact finite_pack _ fits

theorem Stands.compare : UnpackedFloat.compare left.toModel.unpack right.toModel.unpack =
    some (compare units units') := by
  obtain ⟨sign, size, finite, rfl⟩ := stands
  obtain ⟨sign', size', finite', rfl⟩ := stands'
  rw [finite.unpack, finite'.unpack, compare_ofUnits finite.representable finite'.representable]

theorem Stands.lt_iff : left < right ↔ units < units' := by
  change decide ((UnpackedFloat.compare left.toModel.unpack right.toModel.unpack ==
    some .lt) = true) = true ↔ _
  rw [decide_eq_true_iff, stands.compare stands', ← Int.compare_eq_lt, beq_iff_eq,
    Option.some_inj]

theorem Stands.beq_iff : (left == right) = true ↔ units = units' := by
  change (UnpackedFloat.compare left.toModel.unpack right.toModel.unpack == some .eq) = true ↔ _
  rw [stands.compare stands', ← Int.compare_eq_eq, beq_iff_eq, Option.some_inj]

end

end TtyFrame.Single

import TtyFrame.Proofs.Single.Units

/-! Rounding to twenty-four bits loses nothing of a number of units that they hold. -/

set_option autoImplicit false

namespace TtyFrame.Single

open Float.Model (Format UnpackedFloat totalExponent)
open Float.Model.UnpackedFloat (Sign ExtendedMantissa shiftToTargetExponent shiftToExponent
  decreaseExponent roundWithAccuracy)

theorem log2_mul_two_pow {size : Nat} (some : size ≠ 0) (power : Nat) :
    Nat.log2 (size * 2 ^ power) = Nat.log2 size + power := by
  refine (Nat.log2_eq_iff (Nat.mul_ne_zero some (Nat.two_pow_pos _).ne')).mpr ⟨?_, ?_⟩
  · rw [Nat.pow_add]
    exact Nat.mul_le_mul_right _ (Nat.log2_self_le some)
  · rw [Nat.add_right_comm, Nat.pow_add]
    exact Nat.mul_lt_mul_of_pos_right Nat.lt_log2_self (Nat.two_pow_pos _)

private theorem shiftRight_exact (size count : Nat) :
    (⟨size * 2 ^ count, false, false⟩ : ExtendedMantissa) >>> count = ⟨size, false, false⟩ := by
  change count.repeat ExtendedMantissa.shiftRightOne _ = _
  induction count generalizing size with
  | zero => rw [Nat.pow_zero, Nat.mul_one, Nat.repeat]
  | succ count ih =>
    rw [Nat.repeat, Nat.pow_succ', ← Nat.mul_assoc, ih, ExtendedMantissa.shiftRightOne]
    have even : size * 2 % 2 = 0 := Nat.mul_mod_left ..
    rw [Nat.mul_div_cancel _ (by decide), even]
    rfl

section

variable {size power units : Nat} (same : size * 2 ^ power = units) (some : size ≠ 0)
include same some

private theorem targetExponent_eq :
    Format.binary32.targetExponent (totalExponent size ((power : Int) - 149)) =
      (shift units : Int) - 149 := by
  unfold shift
  rw [← same, log2_mul_two_pow some]
  change max ((size.log2 : Int) + 1 + ((power : Int) - 149) - 24) (-149) = _
  omega

variable (representable : Representable units)
include representable

/-- The bits that are dropped down to the leading ones are all zero. -/
theorem shiftToTargetExponent_exact (dropped : power ≤ shift units) :
    shiftToTargetExponent .binary32 size ((power : Int) - 149) .exact =
      (⟨mantissa units, false, false⟩, (shift units : Int) - 149) := by
  have count : ((shift units : Int) - 149 - ((power : Int) - 149)).toNat =
      shift units - power := by omega
  have kept : size = mantissa units * 2 ^ (shift units - power) := by
    refine Nat.eq_of_mul_eq_mul_right (Nat.two_pow_pos power) ?_
    rw [Nat.mul_assoc, ← Nat.pow_add, Nat.sub_add_cancel dropped, representable.mantissa_mul, same]
  rw [shiftToTargetExponent, targetExponent_eq same some, shiftToExponent, count]
  refine Prod.ext ?_ ?_
  · change (⟨size, false, false⟩ : ExtendedMantissa) >>> _ = _
    rw [kept]
    exact shiftRight_exact ..
  · dsimp only
    omega

theorem roundWithAccuracy_exact (sign : Sign) (dropped : power ≤ shift units) :
    roundWithAccuracy .binary32 sign size ((power : Int) - 149) .exact = ofUnits sign units := by
  have whole : units ≠ 0 := by
    rw [← same]
    exact Nat.mul_ne_zero some (Nat.two_pow_pos power).ne'
  have leading := (mantissa_pos whole).ne'
  -- The second shift is for a mantissa that rounding made longer, which this one is not.
  have again := shiftToTargetExponent_exact representable.mantissa_mul leading representable le_rfl
  rw [roundWithAccuracy, shiftToTargetExponent_exact same some representable dropped]
  change (if none : (shiftToTargetExponent .binary32 (mantissa units)
      ((shift units : Int) - 149) .exact).1.mantissa = 0 then UnpackedFloat.zero sign
    else .finite sign _ (shiftToTargetExponent .binary32 (mantissa units)
      ((shift units : Int) - 149) .exact).2 (Nat.pos_of_ne_zero none)) = _
  rw [again, ofUnits, dif_neg whole]
  exact dif_neg leading

theorem round_exact (sign : Sign) :
    UnpackedFloat.round .binary32 sign size ((power : Int) - 149) = ofUnits sign units := by
  have count : ((power : Int) - 149 - ((shift units : Int) - 149)).toNat =
      power - shift units := by omega
  have exponent : (power : Int) - 149 - (power - shift units : Nat) =
      (power - (power - shift units) : Nat) - 149 := by omega
  have widened : size <<< (power - shift units) * 2 ^ (power - (power - shift units)) = units := by
    rw [Nat.shiftLeft_eq, Nat.mul_assoc, ← Nat.pow_add, Nat.add_sub_cancel' (Nat.sub_le ..), same]
  have wide : size <<< (power - shift units) ≠ 0 := by
    rw [Nat.shiftLeft_eq]
    exact Nat.mul_ne_zero some (Nat.two_pow_pos _).ne'
  rw [UnpackedFloat.round, targetExponent_eq same some, decreaseExponent, count, exponent]
  exact roundWithAccuracy_exact widened wide representable sign (by omega)

end

theorem normalize_exact {number : Int} {power units : Nat}
    (same : number.natAbs * 2 ^ power = units) (representable : Representable units)
    (zeroSign : Sign) :
    ∃ sign, UnpackedFloat.normalize .binary32 number ((power : Int) - 149) zeroSign =
        ofUnits sign units ∧
      sign.apply units = number * 2 ^ power := by
  subst same
  unfold UnpackedFloat.normalize
  rcases lt_trichotomy number 0 with below | rfl | above
  · refine ⟨.negative, ?_, ?_⟩
    · rw [Int.compare_eq_lt.mpr below]
      exact round_exact (by congr 1; omega) (by omega) representable .negative
    · change -((number.natAbs * 2 ^ power : Nat) : Int) = _
      push_cast
      rw [abs_of_neg below]
      ring
  · exact ⟨zeroSign, by simp [ofUnits], by cases zeroSign <;> simp [Sign.apply]⟩
  · refine ⟨.positive, ?_, ?_⟩
    · rw [Int.compare_eq_gt.mpr above]
      exact round_exact (by congr 1; omega) (by omega) representable .positive
    · change ((number.natAbs * 2 ^ power : Nat) : Int) = _
      push_cast
      rw [abs_of_pos above]

end TtyFrame.Single

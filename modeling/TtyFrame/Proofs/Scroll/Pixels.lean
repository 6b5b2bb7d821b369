import TtyFrame.Proofs.Scroll.Exact
import TtyFrame.Proofs.Single.Whole

/-! Single-precision numbers of whole pixels are exact as long as no sum is more than 2 ^ 24. -/

set_option autoImplicit false

namespace TtyFrame.Scroll

open Single (IsWhole)

/-- The rational number that a finite single-precision number is. -/
def singleValue (number : Float32) : Rat :=
  let bits := number.toBits.toNat
  let size : Rat := (Single.Magnitude.ofBits bits).units / Single.one
  if bits / Nat.pow 2 31 = 0 then size else -size

private theorem singleValue_eq {number : Float32} {whole : Int} (isWhole : IsWhole number whole) :
    singleValue number = whole := by
  obtain ⟨sign, size, small, finite, rfl⟩ := isWhole
  have units : ((size * Single.one : Nat) : Rat) / Single.one = size := by
    rw [Nat.cast_mul, mul_div_cancel_right₀ _ (Nat.cast_ne_zero.mpr Single.one_pos.ne')]
  rw [singleValue, finite.sign_eq, finite.units_eq, units]
  cases sign with
  | negative => exact (Int.cast_neg (size : Int)).symm
  | positive => rfl

private theorem stands_zero : Single.Stands 0 0 :=
  ⟨.positive, 0, ⟨⟨dvd_zero _, Nat.zero_le _⟩, by decide +kernel⟩, rfl⟩

private theorem clampSingle_whole {low high number : Float32} {least most whole : Int}
    (isLeast : IsWhole low least) (isMost : IsWhole high most) (isWhole : IsWhole number whole)
    (ordered : least ≤ most) :
    IsWhole (clampSingle low high number) (max least (min most whole)) := by
  unfold clampSingle
  split
  · next below =>
    have less := (isWhole.lt_iff isLeast).mp below
    rw [show max least (min most whole) = least by omega]
    exact isLeast
  · next notBelow =>
    have lower := mt (isWhole.lt_iff isLeast).mpr notBelow
    split
    · next above =>
      have more := (isMost.lt_iff isWhole).mp above
      rw [show max least (min most whole) = most by omega]
      exact isMost
    · next notAbove =>
      have upper := mt (isMost.lt_iff isWhole).mpr notAbove
      rw [show max least (min most whole) = whole by omega]
      exact isWhole

/-- Whole lines come out whole, whatever is left of the last one. -/
theorem wholeLines_whole {total height : Float32} {whole : Int} {size : Nat}
    (isTotal : IsWhole total whole) (isHeight : IsWhole height size) (positive : 0 < size) :
    IsWhole (Distance.wholeLines total (Distance.remainder total height) height)
      (whole.tdiv size) := by
  have left : IsWhole (Distance.remainder total height) (whole.tmod size) :=
    isTotal.remainder isHeight
  have lines : whole - whole.tmod size = whole.tdiv size * size := by
    have parts := Int.mul_tdiv_add_tmod whole size
    rw [Int.mul_comm]
    omega
  have small : (whole.tdiv size * size).natAbs ≤ 2 ^ 24 := by
    rw [Int.natAbs_mul, Int.natAbs_tdiv, Int.natAbs_natCast]
    exact (Nat.div_mul_le_self ..).trans isTotal.small
  have taken := isTotal.sub left (by rw [lines]; exact small)
  rw [lines] at taken
  exact (taken.div isHeight positive.ne').round

private theorem toLines_whole {lines : Float32} {whole : Int} {reach : Nat}
    (isLines : IsWhole lines whole)
    (small : reach ≤ 2 ^ 24) :
    Distance.toLines reach lines = max (-(reach : Int)) (min reach whole) := by
  have word : (UInt64.ofNat reach).toNat = reach := by
    rw [UInt64.toNat_ofNat']
    exact Nat.mod_eq_of_lt (by omega)
  have isMost : IsWhole (UInt64.ofNat reach).toFloat32 reach := by
    have isWord := Single.isWhole_toFloat32 (show (UInt64.ofNat reach).toNat ≤ 2 ^ 24 by omega)
    rw [word] at isWord
    exact isWord
  have clamped := clampSingle_whole isMost.neg isMost isLines (by omega)
  change saturate (Single.toInt (clampSingle _ _ lines)) = _
  rw [clamped.toInt]
  unfold saturate
  omega

private theorem exists_natCast {number : Float32} {whole : Int} (isWhole : IsWhole number whole)
    (positive : 0 < singleValue number) : ∃ size : Nat, whole = size ∧ 0 < size := by
  rw [singleValue_eq isWhole, Int.cast_pos] at positive
  exact ⟨whole.toNat, by omega, by omega⟩

/-- Whole pixels, where no sum is more than 2 ^ 24. -/
def Exact.pixels : Exact Float32 where
  value := singleValue
  held number := ∃ whole, IsWhole number whole
  fits sum := |sum| ≤ 2 ^ 24
  neg := by
    rintro distance ⟨whole, isWhole⟩
    refine ⟨⟨-whole, isWhole.neg⟩, ?_⟩
    change singleValue (-distance) = _
    rw [singleValue_eq isWhole.neg, singleValue_eq isWhole, Int.cast_neg]
  add := by
    rintro left right ⟨whole, isWhole⟩ ⟨whole', isWhole'⟩ fits
    rw [singleValue_eq isWhole, singleValue_eq isWhole'] at fits ⊢
    have small : (whole + whole').natAbs ≤ 2 ^ 24 := by
      have bound : |whole + whole'| ≤ 2 ^ 24 := by exact_mod_cast fits
      rw [Int.abs_eq_natAbs] at bound
      omega
    have sum := isWhole.add isWhole' small
    refine ⟨⟨_, sum⟩, ?_⟩
    change singleValue (left + right) = _
    rw [singleValue_eq sum, Int.cast_add]
  finite := by
    rintro distance ⟨whole, isWhole⟩
    exact isWhole.stands.isFinite
  positive := by
    rintro distance ⟨whole, isWhole⟩ above
    rw [singleValue_eq isWhole, Int.cast_pos] at above
    have more : 0 < whole * Single.one :=
      Int.mul_pos above (Int.natCast_pos.mpr Single.one_pos)
    exact decide_eq_true ((stands_zero.lt_iff isWhole.stands).mpr more)
  remainder := by
    rintro total height ⟨whole, isTotal⟩ ⟨whole', isHeight⟩ positive
    obtain ⟨size, rfl, some⟩ := exists_natCast isHeight positive
    have left : IsWhole (Distance.remainder total height) (whole.tmod size) :=
      isTotal.remainder isHeight
    refine ⟨⟨_, left⟩, ?_⟩
    rw [singleValue_eq left, singleValue_eq isTotal, singleValue_eq isHeight, Int.cast_natCast,
      truncate_div]
    exact_mod_cast Int.tmod_def whole size
  isZero := by
    rintro total height ⟨whole, isTotal⟩ ⟨whole', isHeight⟩ positive
    obtain ⟨size, rfl, some⟩ := exists_natCast isHeight positive
    have lines := wholeLines_whole isTotal isHeight some
    rw [singleValue_eq isTotal, singleValue_eq isHeight, Int.cast_natCast, truncate_div]
    change (Distance.wholeLines total _ height == (0 : Float32)) = true ↔ _
    rw [lines.stands.beq_iff stands_zero, Int.mul_eq_zero]
    exact or_iff_left (Int.natCast_ne_zero.mpr Single.one_pos.ne')
  toLines := by
    rintro total height reach ⟨whole, isTotal⟩ ⟨whole', isHeight⟩ positive small
    obtain ⟨size, rfl, some⟩ := exists_natCast isHeight positive
    rw [toLines_whole (wholeLines_whole isTotal isHeight some) small, singleValue_eq isTotal,
      singleValue_eq isHeight, Int.cast_natCast, truncate_div]

theorem pixels_held {number : Float32} (sign : Float.Model.UnpackedFloat.Sign) {size : Nat}
    (small : size ≤ 2 ^ 24)
    (bits : number.toBits.toNat = Single.signedBits sign (size * Single.one)) :
    Exact.pixels.held number :=
  ⟨_, sign, size, small, ⟨Single.representable_whole small, bits⟩, rfl⟩

theorem pixels_fits {sum : Rat} : Exact.pixels.fits sum ↔ |sum| ≤ 2 ^ 24 := Iff.rfl

end TtyFrame.Scroll

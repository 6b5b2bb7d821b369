import TtyFrame.Scroll
import Mathlib.Data.Rat.Floor
import Mathlib.Tactic.FieldSimp
import Mathlib.Tactic.Linarith

/-! Numbers that measure drags without rounding. They stand for rational numbers, and what
a drag computes from those that are held is what the rational numbers give. -/

set_option autoImplicit false

namespace TtyFrame.Scroll

/-- A number cut off toward zero. -/
def truncate (number : Rat) : Int := if 0 ≤ number then ⌊number⌋ else ⌈number⌉

private theorem truncate_intCast (number : Int) : truncate number = number := by
  unfold truncate
  split
  · exact Int.floor_intCast number
  · exact Int.ceil_intCast number

private theorem truncate_neg (number : Rat) : truncate (-number) = -truncate number := by
  unfold truncate
  rcases lt_trichotomy number 0 with below | rfl | above
  · rw [if_pos (by linarith), if_neg (by linarith), Int.floor_neg]
  · rfl
  · rw [if_neg (by linarith), if_pos above.le, Int.ceil_neg]

theorem truncate_div (total : Int) (height : Nat) :
    truncate ((total : Rat) / height) = total.tdiv height := by
  have up (total : Nat) : truncate ((total : Rat) / height) = (total : Int).tdiv height := by
    unfold truncate
    rw [if_pos (by positivity), Rat.floor_natCast_div_natCast]
    rfl
  obtain ⟨size, rfl | rfl⟩ := total.eq_nat_or_neg
  · exact up size
  · rw [Int.cast_neg, neg_div, truncate_neg, Int.neg_tdiv]
    exact congrArg Neg.neg (up size)

private theorem abs_sub_truncate_lt_one (number : Rat) : |number - truncate number| < 1 := by
  unfold truncate
  rw [abs_lt]
  split
  · have least := Int.floor_le number
    have most := Int.lt_floor_add_one number
    constructor <;> linarith
  · have least := Int.ceil_lt_add_one number
    have most := Int.le_ceil number
    constructor <;> linarith

/-- What whole lines leave of a total is less than a line. -/
theorem abs_sub_mul_truncate_lt {height : Rat} (positive : 0 < height) (total : Rat) :
    |total - height * truncate (total / height)| < height := by
  have whole : total - height * truncate (total / height) =
      height * (total / height - truncate (total / height)) := by
    field_simp
  rw [whole, abs_mul, abs_of_pos positive]
  calc height * |total / height - truncate (total / height)|
      < height * 1 := by
        gcongr
        exact abs_sub_truncate_lt_one _
    _ = height := mul_one height

/-- What makes the numbers of drags exact. Those that are held stand for rational numbers,
and a sum is exact if it fits. -/
structure Exact (α : Type) [Distance α] where
  value : α → Rat
  held : α → Prop
  fits : Rat → Prop
  neg {distance : α} : held distance →
    held (Distance.neg distance) ∧ value (Distance.neg distance) = -value distance
  add {left right : α} : held left → held right → fits (value left + value right) →
    held (Distance.add left right) ∧ value (Distance.add left right) = value left + value right
  finite {distance : α} : held distance → Distance.isFinite distance = true
  positive {distance : α} : held distance → 0 < value distance →
    Distance.isPositive distance = true
  remainder {total height : α} : held total → held height → 0 < value height →
    held (Distance.remainder total height) ∧
      value (Distance.remainder total height) =
        value total - value height * truncate (value total / value height)
  isZero {total height : α} : held total → held height → 0 < value height →
    (Distance.isZero
        (Distance.wholeLines total (Distance.remainder total height) height) = true ↔
      truncate (value total / value height) = 0)
  toLines {total height : α} {reach : Nat} : held total → held height → 0 < value height →
    reach ≤ 2 ^ 24 →
    Distance.toLines reach
        (Distance.wholeLines total (Distance.remainder total height) height) =
      max (-(reach : Int)) (min reach (truncate (value total / value height)))

/-- Rational numbers. The quotient that makes the whole lines is whole already, with nothing
to round. -/
instance : Distance Rat where
  zero := 0
  neg distance := -distance
  add := (· + ·)
  isFinite _ := true
  isPositive distance := 0 < distance
  remainder total height := total - height * truncate (total / height)
  wholeLines total left height := (total - left) / height
  isZero lines := lines = 0
  toLines reach lines := max (-reach) (min reach (truncate lines))

private theorem wholeLines_rat {height : Rat} (positive : 0 < height) (total : Rat) :
    Distance.wholeLines total (Distance.remainder total height) height =
      truncate (total / height) := by
  change (total - (total - height * truncate (total / height))) / height = _
  rw [sub_sub_cancel, mul_div_cancel_left₀ _ positive.ne']

/-- Every rational number, and every sum of two. -/
def Exact.rational : Exact Rat where
  value distance := distance
  held _ := True
  fits _ := True
  neg _ := ⟨trivial, rfl⟩
  add _ _ _ := ⟨trivial, rfl⟩
  finite _ := rfl
  positive _ above := decide_eq_true above
  remainder _ _ _ := ⟨trivial, rfl⟩
  isZero {total _} _ _ above := by
    rw [wholeLines_rat above total]
    change decide (_ = (0 : Rat)) = true ↔ _
    rw [decide_eq_true_iff, Int.cast_eq_zero]
  toLines {total _ _} _ _ above _ := by
    rw [wholeLines_rat above total]
    change max _ (min _ (truncate _)) = _
    rw [truncate_intCast]

end TtyFrame.Scroll

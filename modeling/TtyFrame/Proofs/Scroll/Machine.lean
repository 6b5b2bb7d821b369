import TtyFrame.Proofs.Scroll.Script
import TtyFrame.Scroll.Machine

/-! Scrolling by whole lines with machine numbers. Within the history of a scroll state
nothing that is cut off on the way changes where the view ends up, not even for the least and
the largest numbers. -/

set_option autoImplicit false

namespace TtyFrame.Scroll

namespace Machine

theorem toInt_eq_least_iff (value : Int32) :
    value = Int32.minValue ↔ value.toInt = -2147483648 := by
  rw [← Int32.toInt_inj, Int32.toInt_minValue]
  rfl

private theorem toInt_negate {value : Int32} (notLeast : value ≠ Int32.minValue) :
    (-value).toInt = -value.toInt := by
  have low := value.le_toInt
  have high := value.toInt_lt
  rw [ne_eq, toInt_eq_least_iff] at notLeast
  rw [Int32.toInt_neg, Int.bmod_eq_of_le] <;> omega

theorem negate?_toInt {value : Int32} (notLeast : value ≠ Int32.minValue) :
    ∃ negative, negate? value = some negative ∧ negative.toInt = -value.toInt :=
  ⟨-value, if_neg notLeast, toInt_negate notLeast⟩

theorem clamp?_toInt {low high : Int32} (ordered : low ≤ high) (value : Int32) :
    ∃ kept, clamp? low high value = some kept ∧
      kept.toInt = max low.toInt (min high.toInt value.toInt) := by
  refine ⟨_, if_pos ordered, ?_⟩
  simp only [Int32.le_iff_toInt_le, Int32.lt_iff_toInt_lt] at ordered ⊢
  split
  · omega
  · split <;> omega

private theorem reach_toInt (history : UInt64) :
    (reach history).toUInt32.toInt32.toInt = (min history.toNat maxReach : Nat) := by
  have short : (reach history).toNat = min history.toNat maxReach := by
    unfold reach maxReach
    split
    · next shorter =>
      rw [UInt64.lt_iff_toNat_lt] at shorter
      exact (Nat.min_eq_left (Nat.le_of_lt shorter)).symm
    · next longer =>
      rw [UInt64.lt_iff_toNat_lt, Nat.not_lt] at longer
      exact (Nat.min_eq_right longer).symm
  have kept : (reach history).toUInt32.toBitVec.toNat = min history.toNat maxReach := by
    rw [UInt32.toNat_toBitVec, UInt64.toNat_toUInt32, short]
    unfold maxReach
    omega
  change (reach history).toUInt32.toBitVec.toInt = _
  rw [BitVec.toInt_eq_toNat_of_lt, kept]
  rw [kept]
  unfold maxReach
  omega

theorem clampOrigin?_toInt (origin : Int32) (history : UInt64) :
    (clampOrigin? origin history).map Int32.toInt =
      some (clampOrigin origin.toInt history.toNat) := by
  have length := reach_toInt history
  have notLeast : (reach history).toUInt32.toInt32 ≠ Int32.minValue := by
    rw [ne_eq, toInt_eq_least_iff, length]
    omega
  obtain ⟨oldest, negated, oldestValue⟩ := negate?_toInt notLeast
  have ordered : oldest ≤ 0 := by
    rw [Int32.le_iff_toInt_le, oldestValue, length, Int32.toInt_zero]
    omega
  obtain ⟨kept, clamped, keptValue⟩ := clamp?_toInt ordered origin
  have value : kept.toInt = clampOrigin origin.toInt history.toNat := by
    rw [keptValue, oldestValue, length, Int32.toInt_zero, clampOrigin, Int.min_comm 0]
  rw [clampOrigin?, negated]
  change (clamp? oldest 0 origin).map Int32.toInt = _
  rw [clamped, Option.map_some, value]

theorem saturatingNegate_toInt (value : Int32) :
    (saturatingNegate value).toInt = saturate (-value.toInt) := by
  have low := value.le_toInt
  have high := value.toInt_lt
  unfold saturatingNegate saturate
  split
  · next least =>
    rw [toInt_eq_least_iff] at least
    rw [Int32.toInt_maxValue]
    omega
  · next notLeast =>
    rw [toInt_negate notLeast]
    rw [toInt_eq_least_iff] at notLeast
    omega

theorem saturatingAdd_toInt (first second : Int32) :
    (saturatingAdd first second).toInt = saturate (first.toInt + second.toInt) := by
  unfold saturatingAdd saturate
  rw [Int32.toInt_ofInt_of_le] <;> omega

theorem scrollLines?_toInt (origin : Int32) (history : UInt64) (lines : Int32) :
    (scrollLines? origin history lines).map Int32.toInt =
      some (clampOrigin (saturate (origin.toInt + saturate (-lines.toInt))) history.toNat) := by
  rw [scrollLines?, clampOrigin?_toInt, saturatingAdd_toInt, saturatingNegate_toInt]

end Machine

namespace State

variable {α : Type}

/-- What is cut off lies beyond the live screen or beyond the oldest line: the origin is not
positive, and no history reaches farther back than the largest number. -/
theorem InRange.clampOrigin_saturate {state : State α} (inRange : state.InRange) (lines : Int) :
    clampOrigin (saturate (state.origin + saturate (-lines))) state.history =
      max (-((min state.history maxReach : Nat) : Int)) (min 0 (state.origin - lines)) := by
  obtain ⟨least, most⟩ := inRange
  unfold clampOrigin saturate maxReach at *
  omega

variable [Distance α]

/-- Whatever came before, a scroll on the primary screen by any number of lines takes the
origin to the place that unbounded numbers give, and nothing else changes. Machine numbers
get there, too, without a step that has no result, and an origin is brought within a history
in the same way whatever both are. -/
theorem scrollLines_exact (calls : List (Call α)) (lines : Int32)
    (primary : ((initial : State α).follow calls).alternate = false) :
    let state := (initial : State α).follow calls
    let exact :=
      max (-((min state.history maxReach : Nat) : Int)) (min 0 (state.origin - lines.toInt))
    (state.scrollLines lines.toInt).1 = { state with origin := exact } ∧
      (∃ origin : Int32, origin.toInt = state.origin ∧
        ∀ history : UInt64, history.toNat = state.history →
          (Machine.scrollLines? origin history lines).map Int32.toInt = some exact) ∧
      ∀ (origin : Int32) (history : UInt64),
        (Machine.clampOrigin? origin history).map Int32.toInt =
            some (max (-((min history.toNat maxReach : Nat) : Int)) (min 0 origin.toInt)) ∧
          clampOrigin origin.toInt history.toNat =
            max (-((min history.toNat maxReach : Nat) : Int)) (min 0 origin.toInt) := by
  intro state exact
  have inRange : state.InRange := (initial_sound.follow calls).inRange
  have moved : clampOrigin (saturate (state.origin + saturate (-lines.toInt))) state.history =
      exact := inRange.clampOrigin_saturate lines.toInt
  refine ⟨?_, ?_, fun origin history => ?_⟩
  · have shown : ¬ state.alternate = true := Bool.eq_false_iff.mp primary
    rw [scrollLines, if_neg shown]
    simp only [moveBy, moved]
  · obtain ⟨least, most⟩ := inRange
    have fits : (Int32.ofInt state.origin).toInt = state.origin := by
      unfold maxReach at least
      rw [Int32.toInt_ofInt_of_le] <;> omega
    refine ⟨Int32.ofInt state.origin, fits, fun history same => ?_⟩
    rw [Machine.scrollLines?_toInt, fits, same, moved]
  · have swapped : clampOrigin origin.toInt history.toNat =
        max (-((min history.toNat maxReach : Nat) : Int)) (min 0 origin.toInt) := by
      rw [clampOrigin, Int.min_comm 0]
    exact ⟨by rw [Machine.clampOrigin?_toInt, swapped], swapped⟩

/-- From the oldest line that an origin can look back to, in a history of the largest length,
by the least number of lines. -/
theorem scrollLines_exact_least :
    let calls : List (Call Int) := [.setHistory 18446744073709551615, .scrollLines 2147483647]
    let state := (initial : State Int).follow calls
    state.alternate = false ∧ state.origin = -2147483647 ∧
      (state.scrollLines Int32.minValue.toInt).1 = { state with origin := 0 } ∧
      (Machine.scrollLines? (-2147483647) 18446744073709551615 Int32.minValue).map Int32.toInt =
        some 0 := by
  intro calls state
  have primary : state.alternate = false := by decide
  obtain ⟨scrolled, ⟨origin, value, words⟩, -⟩ :=
    scrollLines_exact calls Int32.minValue primary
  have same : origin = -2147483647 := by
    rw [← Int32.toInt_inj, value]
    decide
  refine ⟨primary, by decide, ?_, ?_⟩
  · rw [scrolled]
    decide
  · rw [← same, words _ (by decide)]
    decide

end State

end TtyFrame.Scroll

import TtyFrame.Scroll

/-! A scroll state keeps its origin between the oldest history line and the live screen.
Nothing is asked of the numbers that measure a drag, so no rounding can break this. A state
that is reversed takes a drag for the opposite one. -/

set_option autoImplicit false

namespace TtyFrame.Scroll

theorem clampOrigin_range (origin : Int) (history : Nat) :
    -((min history maxReach : Nat) : Int) ≤ clampOrigin origin history ∧
      clampOrigin origin history ≤ 0 := by
  unfold clampOrigin
  omega

namespace State

variable {α : Type}

/-- The origin lies within the history. -/
def InRange (state : State α) : Prop :=
  -((min state.history maxReach : Nat) : Int) ≤ state.origin ∧ state.origin ≤ 0

theorem InRange.clampOrigin_eq {state : State α} (inRange : state.InRange) :
    clampOrigin state.origin state.history = state.origin := by
  obtain ⟨least, most⟩ := inRange
  unfold clampOrigin
  omega

/-- What a call that scrolls may do to a state, and what it answers: it moves within the
history, or not at all, and says which. -/
structure Moves (before : State α) (after : State α × Bool) : Prop where
  history : after.1.history = before.history
  alternate : after.1.alternate = before.alternate
  reverse : after.1.reverse = before.reverse
  moved : after.2 = true ↔ after.1.origin ≠ before.origin
  inRange : before.InRange → after.1.InRange

theorem Moves.still {before : State α} {after : State α × Bool} (moves : Moves before after)
    (silent : after.2 = false) : after.1.origin = before.origin := by
  refine Decidable.byContradiction fun moved => ?_
  rw [moves.moved.mpr moved] at silent
  cases silent

private theorem moves_refl (state : State α) : Moves state (state, false) where
  history := rfl
  alternate := rfl
  reverse := rfl
  moved := by simp
  inRange := id

/-- A move answers by comparing the origins, whatever became of the remainder before. -/
theorem moves_moveBy (state : State α) (remainder : α) (delta : Int) :
    Moves state
      (({ state with remainder }.moveBy delta),
        ({ state with remainder }.moveBy delta).origin ≠ state.origin) where
  history := rfl
  alternate := rfl
  reverse := rfl
  moved := decide_eq_true_iff
  inRange _ := clampOrigin_range ..

theorem scrollLines_moves (state : State α) (lines : Int) :
    Moves state (state.scrollLines lines) := by
  unfold scrollLines
  split
  · exact moves_refl state
  · exact moves_moveBy state state.remainder _

/-- Every line of the history is one call away, where only the primary screen has any. -/
theorem scrollLines_reach {state : State α} (inRange : state.InRange)
    (bare : state.alternate = true → state.history = 0) (short : state.history ≤ maxReach)
    {line : Int} (least : -(state.history : Int) ≤ line) (most : line ≤ 0) :
    (state.scrollLines (state.origin - line)).1.origin = line := by
  have ⟨lowest, highest⟩ := inRange
  rw [Nat.min_eq_left short] at lowest
  unfold scrollLines
  split
  · next alternate =>
    have none := bare alternate
    change state.origin = line
    omega
  · have delta : saturate (-(state.origin - line)) = line - state.origin := by
      unfold saturate
      unfold maxReach at *
      omega
    have whole : saturate (state.origin + (line - state.origin)) = line := by
      unfold saturate
      unfold maxReach at *
      omega
    have reached : InRange { state with origin := line } := by
      unfold InRange
      rw [Nat.min_eq_left short]
      exact ⟨least, most⟩
    rw [moveBy, delta, whole]
    exact reached.clampOrigin_eq

theorem setHistory_inRange (state : State α) (history : Nat) :
    (state.setHistory history).InRange := clampOrigin_range ..

theorem setReverse_self {state : State α} {reverse : Bool} (same : state.reverse = reverse) :
    state.setReverse reverse = state := by
  subst same
  rfl

variable [Distance α]

theorem initial_inRange : (initial : State α).InRange := by
  constructor <;> exact Int.le_refl 0

theorem drag_moves (state : State α) (delta height : α) :
    Moves state (state.drag delta height) := by
  unfold drag
  split
  · exact moves_refl state
  · dsimp only
    split
    · exact moves_refl state
    · split
      · exact ⟨rfl, rfl, rfl, by simp, id⟩
      · exact moves_moveBy state _ _

theorem scrollToBottom_moves (state : State α) :
    Moves state (state.scrollToBottom, !state.isAtBottom) where
  history := rfl
  alternate := rfl
  reverse := rfl
  moved := by
    rw [isAtBottom, Bool.not_eq_true', decide_eq_false_iff_not]
    exact ⟨Ne.symm, Ne.symm⟩
  inRange _ := ⟨Int.neg_nonpos_of_nonneg (Int.natCast_nonneg _), Int.le_refl 0⟩

theorem setAlternate_reverse (state : State α) (alternate : Bool) :
    (state.setAlternate alternate).reverse = state.reverse := by
  unfold setAlternate
  dsimp only
  split <;> rfl

/-- A reversed drag is the drag by the opposite distance. No law says that one of the two is
finite only if the other is, so that is asked for here. -/
theorem setReverse_drag {reverse : Bool} {delta turned : α} (state : State α) (height : α)
    (turns : (if reverse then Distance.neg delta else delta) = turned)
    (finite : Distance.isFinite turned = Distance.isFinite delta) :
    let plain := (state.setReverse false).drag turned height
    (state.setReverse reverse).drag delta height = (plain.1.setReverse reverse, plain.2) := by
  intro plain
  unfold plain
  cases reverse with
  | false =>
    obtain rfl : delta = turned := turns
    have kept : ((state.setReverse false).drag delta height).1.reverse = false :=
      (drag_moves ..).reverse
    exact Prod.ext (setReverse_self kept).symm rfl
  | true =>
    obtain rfl : Distance.neg delta = turned := turns
    -- Only the check of the distance itself sees the sign; all else works with the turned one.
    simp only [drag, directed, setReverse, if_true, Bool.false_eq_true, if_false, finite]
    by_cases refused : (state.alternate || !Distance.isFinite delta || !Distance.isFinite height ||
        !Distance.isPositive height) = true
    · simp only [if_pos refused]
    · simp only [if_neg refused]
      by_cases endless :
          (!Distance.isFinite (Distance.add state.remainder (Distance.neg delta))) = true
      · simp only [if_pos endless]
      · simp only [if_neg endless]
        split <;> rfl

end State

end TtyFrame.Scroll

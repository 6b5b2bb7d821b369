import TtyFrame.Proofs.Scroll.Range

/-! Runs of a scroll state through its own calls. After any calls the origin lies within
the history, and the alternate screen shows the live lines with no drag under way. The
numbers that measure a drag obey no law here, so nothing hangs on how they round. -/

set_option autoImplicit false

namespace TtyFrame.Scroll

/-- A call of a scroll state. -/
inductive Call (α : Type) where
  | drag (delta height : α)
  | scrollLines (lines : Int)
  | setHistory (history : Nat)
  | setAlternate (alternate : Bool)
  | scrollToBottom
  | setReverse (reverse : Bool)

namespace State

variable {α : Type} [Distance α]

/-- Makes a call, whatever it answers. -/
def step (state : State α) : Call α → State α
  | .drag delta height => (state.drag delta height).1
  | .scrollLines lines => (state.scrollLines lines).1
  | .setHistory history => state.setHistory history
  | .setAlternate alternate => state.setAlternate alternate
  | .scrollToBottom => state.scrollToBottom
  | .setReverse reverse => state.setReverse reverse

/-- Makes calls in order. -/
def follow (state : State α) (calls : List (Call α)) : State α := calls.foldl step state

/-- The view stands at the live screen, and no drag is under way. -/
structure Resting (state : State α) : Prop where
  origin : state.origin = 0
  remainder : state.remainder = Distance.zero

/-- What holds of a scroll state between calls. -/
structure Sound (state : State α) : Prop where
  inRange : state.InRange
  resting : state.alternate = true → state.Resting

theorem drag_alternate {state : State α} (alternate : state.alternate = true)
    (delta height : α) : state.drag delta height = (state, false) := by
  rw [drag, alternate]
  rfl

omit [Distance α] in
theorem scrollLines_alternate {state : State α} (alternate : state.alternate = true)
    (lines : Int) : state.scrollLines lines = (state, false) := by
  rw [scrollLines, if_pos alternate]

private theorem scrollToBottom_resting (state : State α) :
    state.scrollToBottom.Resting :=
  ⟨rfl, rfl⟩

omit [Distance α] in
private theorem clampOrigin_zero (history : Nat) : clampOrigin 0 history = 0 := by
  unfold clampOrigin
  omega

namespace Sound

variable {state : State α}

theorem setHistory (sound : state.Sound) (history : Nat) : (state.setHistory history).Sound where
  inRange := setHistory_inRange ..
  resting alternate := by
    have before := sound.resting alternate
    refine ⟨?_, before.remainder⟩
    change clampOrigin state.origin history = 0
    rw [before.origin, clampOrigin_zero]

/-- Turning the alternate screen on takes the view to rest; one that was on left it there. -/
theorem setAlternate (sound : state.Sound) (alternate : Bool) :
    (state.setAlternate alternate).Sound := by
  unfold State.setAlternate
  dsimp only
  split
  · exact ⟨(scrollToBottom_moves state).inRange sound.inRange,
      fun _ => { state.scrollToBottom_resting with }⟩
  · next same =>
    refine ⟨sound.inRange, fun on => ?_⟩
    obtain rfl : alternate = true := on
    have before : state.alternate = true := by simpa using same
    exact { sound.resting before with }

theorem step (sound : state.Sound) (call : Call α) : (state.step call).Sound := by
  cases call with
  | drag delta height =>
    have moves := drag_moves state delta height
    refine ⟨moves.inRange sound.inRange, fun on => ?_⟩
    have alternate : state.alternate = true := moves.alternate.symm.trans on
    rw [State.step, drag_alternate alternate]
    exact sound.resting alternate
  | scrollLines lines =>
    have moves := scrollLines_moves state lines
    refine ⟨moves.inRange sound.inRange, fun on => ?_⟩
    have alternate : state.alternate = true := moves.alternate.symm.trans on
    rw [State.step, scrollLines_alternate alternate]
    exact sound.resting alternate
  | setHistory history => exact sound.setHistory history
  | setAlternate alternate => exact sound.setAlternate alternate
  | scrollToBottom =>
    exact ⟨(scrollToBottom_moves state).inRange sound.inRange,
      fun _ => state.scrollToBottom_resting⟩
  | setReverse reverse => exact ⟨sound.inRange, fun on => { sound.resting on with }⟩

theorem follow (sound : state.Sound) (calls : List (Call α)) : (state.follow calls).Sound := by
  induction calls generalizing state with
  | nil => exact sound
  | cons call rest ih => exact ih (sound.step call)

end Sound

theorem initial_sound : (initial : State α).Sound where
  inRange := initial_inRange
  resting _ := ⟨rfl, rfl⟩

/-- After any calls, with drags measured by single-precision or any other numbers, the
origin lies between the oldest history line that an origin can look back to and the live
screen. On the alternate screen it is the live one and nothing of a drag is left. A call
that scrolls answers that it moved exactly if the origin is another than before. -/
theorem follow_within_history (calls : List (Call α)) :
    let state := (initial : State α).follow calls
    (-((min state.history maxReach : Nat) : Int) ≤ state.origin ∧ state.origin ≤ 0) ∧
      (state.alternate = true → state.origin = 0 ∧ state.remainder = Distance.zero) ∧
      (∀ delta height, (state.drag delta height).2 = true ↔
        (state.drag delta height).1.origin ≠ state.origin) ∧
      ∀ lines, (state.scrollLines lines).2 = true ↔
        (state.scrollLines lines).1.origin ≠ state.origin := by
  intro state
  have sound : state.Sound := initial_sound.follow calls
  refine ⟨sound.inRange, fun alternate => ?_, fun delta height => ?_, fun lines => ?_⟩
  · exact ⟨(sound.resting alternate).origin, (sound.resting alternate).remainder⟩
  · exact (drag_moves state delta height).moved
  · exact (scrollLines_moves state lines).moved

end State

end TtyFrame.Scroll

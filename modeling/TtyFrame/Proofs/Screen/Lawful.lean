import TtyFrame.Proofs.Engine
import TtyFrame.Proofs.Screen.Obeying
import TtyFrame.Screen.Engine

/-! The screen is an engine that sessions can rely on. -/

set_option autoImplicit false

namespace TtyFrame

namespace Screen.State

theorem resize_modes (state : State) (columns lines : Nat) :
    (state.resize columns lines).modes = state.modes := by
  unfold resize
  split <;> rfl

namespace Shaped

variable {columns lines limit : Nat} {state : State}

theorem history_le (shaped : state.Shaped columns lines limit) :
    state.grid.history.size ≤ limit := by
  have kept := shaped.grid.kept
  split at kept
  · exact Nat.le_trans kept (Nat.zero_le limit)
  · exact kept

theorem history_alternate (shaped : state.Shaped columns lines limit)
    (on : state.modes.alternate = true) : state.grid.history.size = 0 := by
  have kept := shaped.grid.kept
  rw [if_pos on] at kept
  exact Nat.le_zero.mp kept

end Shaped

end Screen.State

theorem Engine.Reached.shaped {limit : Nat} {size : Size} {screen : Screen.State}
    (reached : Engine.Reached limit size screen) :
    screen.Shaped size.columns size.rows limit := by
  induction reached with
  | blank => exact Screen.State.blank_shaped ..
  | resize _ next ih =>
    have two : 1 < next.clamped.columns := Nat.lt_of_lt_of_le (by decide) (Nat.le_max_right ..)
    exact ih.resize two _
  | takeBytes _ stream bytes ih => exact ih.takeBytes stream bytes

/-- No line of a screen that is reached is missing or too short. -/
theorem Engine.Reached.rectangular {limit : Nat} {size : Size} {screen : Screen.State}
    (reached : Engine.Reached limit size screen) : screen.grid.Rectangular :=
  reached.shaped.grid.rectangular

instance : Engine.Lawful Screen.State where
  blank_history _ _ _ := rfl
  blank_alternate _ _ _ := rfl
  width reached := reached.shaped.grid.wide
  height reached := reached.shaped.grid.high
  history_le reached := reached.shaped.history_le
  history_alternate reached := reached.shaped.history_alternate
  resize_alternate state columns rows :=
    congrArg Screen.Modes.alternate (state.resize_modes columns rows)

end TtyFrame

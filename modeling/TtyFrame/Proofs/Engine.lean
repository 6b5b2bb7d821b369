import TtyFrame.Engine
import TtyFrame.Size

/-! What is relied on of a terminal engine. A screen has the size that it was given last,
whatever a program writes. Its history keeps to the limit that it was created with, the
alternate screen has none, and a resize does not switch screens. -/

set_option autoImplicit false

namespace TtyFrame.Engine

variable {ε : Type} [Engine ε]

/-- The screens that an engine comes to from an empty one with a limit to its history, by the
size that they were given last. No screen is smaller than the smallest grid. -/
inductive Reached (limit : Nat) : Size → ε → Prop where
  | blank (size : Size) :
      Reached limit size.clamped (blank size.clamped.columns size.clamped.rows limit)
  | resize {size : Size} {screen : ε} (reached : Reached limit size screen) (next : Size) :
      Reached limit next.clamped (resize screen next.clamped.columns next.clamped.rows)
  | takeBytes {size : Size} {screen : ε} (reached : Reached limit size screen)
      (stream : Stream ε) (bytes : List UInt8) :
      Reached limit size (takeBytes stream screen bytes).2.1

namespace Reached

variable {limit : Nat} {size : Size} {screen : ε}

theorem wide (reached : Reached limit size screen) : Config.minColumns ≤ size.columns := by
  induction reached with
  | blank size => exact Nat.le_max_right ..
  | resize _ next => exact Nat.le_max_right ..
  | takeBytes _ _ _ ih => exact ih

theorem high (reached : Reached limit size screen) : Config.minRows ≤ size.rows := by
  induction reached with
  | blank size => exact Nat.le_max_right ..
  | resize _ next => exact Nat.le_max_right ..
  | takeBytes _ _ _ ih => exact ih

end Reached

variable (ε) in
/-- The laws of an engine. -/
class Lawful : Prop where
  blank_history (columns lines limit : Nat) : (view (blank columns lines limit : ε)).history = 0
  blank_alternate (columns lines limit : Nat) :
    (view (blank columns lines limit : ε)).alternate = false
  width {limit : Nat} {size : Size} {screen : ε} :
    Reached limit size screen → (view screen).width = size.columns
  height {limit : Nat} {size : Size} {screen : ε} :
    Reached limit size screen → (view screen).height = size.rows
  history_le {limit : Nat} {size : Size} {screen : ε} :
    Reached limit size screen → (view screen).history ≤ limit
  history_alternate {limit : Nat} {size : Size} {screen : ε} :
    Reached limit size screen → (view screen).alternate = true → (view screen).history = 0
  resize_alternate (screen : ε) (columns rows : Nat) :
    (view (resize screen columns rows)).alternate = (view screen).alternate

end TtyFrame.Engine

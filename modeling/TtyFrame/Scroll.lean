import TtyFrame.Scroll.Distance

/-!
# Scrolling

Which buffer line stands in the top row of the view. Line 0 is the top of the live
screen, and negative lines look back into the history.
-/

set_option autoImplicit false

namespace TtyFrame.Scroll

/-- The most history lines that an origin can look back to. -/
def maxReach : Nat := 2147483647

/-- An origin brought between the oldest history line and the live screen. -/
def clampOrigin (origin : Int) (history : Nat) : Int :=
  max (-(min history maxReach : Nat)) (min origin 0)

structure State (α : Type) where
  /-- The buffer line in the top row. -/
  origin : Int
  /-- The part of a drag that did not yet make a whole line. -/
  remainder : α
  history : Nat
  /-- The alternate screen is on; it does not scroll. -/
  alternate : Bool
  reverse : Bool
deriving DecidableEq, Repr

namespace State

variable {α : Type} [Distance α]

/-- The live screen of an empty buffer. -/
def initial : State α := ⟨0, Distance.zero, 0, false, false⟩

def setReverse (state : State α) (reverse : Bool) : State α := { state with reverse }

def isAtBottom (state : State α) : Bool := state.origin = 0

/-- Goes back to the live screen and forgets a drag that is under way. -/
def scrollToBottom (state : State α) : State α :=
  { state with origin := 0, remainder := Distance.zero }

/-- Takes over which screen is on. Turning the alternate screen on goes back to the
live screen. -/
def setAlternate (state : State α) (alternate : Bool) : State α :=
  let state := if alternate && !state.alternate then state.scrollToBottom else state
  { state with alternate }

/-- Takes over the number of history lines and keeps the origin within them. -/
def setHistory (state : State α) (history : Nat) : State α :=
  { state with history, origin := clampOrigin state.origin history }

def moveBy (state : State α) (delta : Int) : State α :=
  { state with origin := clampOrigin (saturate (state.origin + delta)) state.history }

/-- Scrolls by whole lines; positive numbers go to older lines. Says whether the origin
moved. -/
def scrollLines (state : State α) (lines : Int) : State α × Bool :=
  if state.alternate then (state, false)
  else
    let next := state.moveBy (saturate (-lines))
    (next, next.origin ≠ state.origin)

/-- The distance of a drag in the direction of older lines. -/
def directed (state : State α) (delta : α) : α :=
  if state.reverse then Distance.neg delta else delta

def reach (state : State α) : Nat := min state.history maxReach

/-- Scrolls by a drag; a positive distance moves the content down and shows older lines.
What does not make a whole line waits for the next drag. Says whether the origin moved. -/
def drag (state : State α) (delta height : α) : State α × Bool :=
  if state.alternate || !Distance.isFinite delta || !Distance.isFinite height ||
      !Distance.isPositive height then (state, false)
  else
    let total := Distance.add state.remainder (state.directed delta)
    if !Distance.isFinite total then (state, false)
    else
      let left := Distance.remainder total height
      let lines := Distance.wholeLines total left height
      let kept := { state with remainder := left }
      if Distance.isZero lines then (kept, false)
      else
        let next := kept.moveBy (saturate (-(Distance.toLines state.reach lines)))
        (next, next.origin ≠ state.origin)

end State

end TtyFrame.Scroll

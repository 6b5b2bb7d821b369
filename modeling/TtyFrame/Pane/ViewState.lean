import TtyFrame.Composition
import TtyFrame.Frame
import TtyFrame.Presentation.Context
import TtyFrame.Session.Worker

/-!
# The view state of a pane

What the presentation thread keeps: where the view is scrolled to, what is being composed,
the last good frame, and whether there is anything to draw.
-/

set_option autoImplicit false

namespace TtyFrame

/-- The view state of a pane, with distances `α`. -/
structure ViewState (α : Type) where
  scroll : Scroll.State α
  input : Composition.Session
  /-- The last frame that could be built. -/
  frame : Option Frame := none
  lastChange : Option BufferChange := none
  /-- What is drawn may differ from the last frame. -/
  dirty : Bool := true

namespace ViewState

variable {α : Type} [Scroll.Distance α]

def ofConfig (config : Config) : ViewState α :=
  { scroll := Scroll.State.initial.setReverse config.scrollReverse
    input := .initial config.composition }

/-- Takes a change of the buffer over: which screen is on, and then how long its history
is. -/
def applyChange (change : BufferChange) (view : ViewState α) : ViewState α :=
  { view with
    scroll := (view.scroll.setAlternate change.alternate).setHistory change.history
    lastChange := some change
    dirty := true }

def changeJob (change : BufferChange) : Presentation.Job (ViewState α) :=
  .single (applyChange change)

/-- Scrolls. If the view moves there is something to draw. -/
def scrollWith (view : ViewState α) (move : Scroll.State α → Scroll.State α × Bool) :
    ViewState α × Bool :=
  let (scroll, moved) := move view.scroll
  ({ view with scroll, dirty := view.dirty || moved }, moved)

def scrollToBottom (view : ViewState α) : ViewState α :=
  (view.scrollWith fun scroll => (scroll.scrollToBottom, !scroll.isAtBottom)).1

/-- Takes the outcome of a build over. A failed one leaves the last good frame to draw, if
there is any, and everything else as it was. -/
def takeFrame (view : ViewState α) (built : Except RenderError Frame) :
    ViewState α × Except RenderError Frame :=
  match built with
  | .ok frame => ({ view with frame := some frame, dirty := false }, .ok frame)
  | .error cause =>
    match view.frame with
    | some frame => (view, .ok frame)
    | none => (view, .error cause)

def configure (config : Config) (view : ViewState α) : ViewState α :=
  { view with
    input := view.input.setStrategy config.composition
    scroll := view.scroll.setReverse config.scrollReverse
    dirty := true }

end ViewState

end TtyFrame

import TtyFrame.Composition.Counted
import TtyFrame.Pane
import TtyFrame.Screen.Engine
import TtyFrame.Screen.Walk

/-!
# Panes in machine words

A pane takes input and builds frames with machine words, which may stop everything, and its
output is read in pieces.
-/

set_option autoImplicit false

namespace TtyFrame.Pane

variable {ε κ α τ : Type} [Engine ε] [Scroll.Distance α]

/-- Builds a frame as `build` does, from a buffer that counts in machine numbers. -/
def buildCounted (pane : Pane ε κ α τ) (buffer : Except LockError CountedView) :
    Except Trap (Except RenderError Frame) :=
  Word.buildCounted Cell.width buffer pane.session.style pane.session.size.columns
    pane.session.size.rows pane.view.scroll.origin pane.palette

/-- Pumps and builds a frame as `render` does. -/
def renderCounted (pane : Pane Screen.State κ α τ) (held : Bool) :
    Except Trap (Pane Screen.State κ α τ × Except RenderError Frame) := do
  let (pumped, _) := pane.pump
  let buffer := if held then .error .timeout else .ok pumped.session.screen.counted
  let built ← pumped.buildCounted buffer
  let (view, outcome) := pumped.view.takeFrame built
  return (pumped.updateView fun _ => view, outcome)

variable [Connector κ]

/-- Takes an event as `handle` does, with the counts of a deletion in machine words. -/
def handleCounted (pane : Pane ε κ α τ) (event : Composition.Event) :
    Except Trap (Pane ε κ α τ × Bool) := do
  let encoder := Xterm.encoder pane.session.applicationCursor
  let (input, response) ←
    pane.view.input.stepCounted Composition.Outgoing.width encoder event
  return ((pane.updateView fun view => { view with input }).dispatch response.sends,
    response.handled)

/-- Applies pieces of output one after the other, each announced at once. -/
def readPieces (pane : Pane ε κ α τ) : List (List UInt8) → Pane ε κ α τ × List (τ × BufferChange)
  | [] => (pane, [])
  | piece :: rest =>
    let (next, told) := pane.output piece
    let (last, later) := next.readPieces rest
    (last, told ++ later)

/-- Output of any length, in the pieces that it is read in. -/
def read (pane : Pane ε κ α τ) (bytes : List UInt8) : Pane ε κ α τ × List (τ × BufferChange) :=
  pane.readPieces (Session.pieces bytes)

end TtyFrame.Pane

import TtyFrame.Key.Xterm
import TtyFrame.Pane.Extent
import TtyFrame.Pane.ViewState
import TtyFrame.Session

/-!
# Panes

A pane shows a session and takes input for it. Changes of the buffer reach the view as
queued jobs, a frame is built on demand, and whatever the input leads to is written to
the session.
-/

set_option autoImplicit false

namespace TtyFrame

inductive Listener (τ : Type) where
  | view
  | guest (tag : τ)
deriving DecidableEq, Repr

/-- A pane over an engine with screens `ε` and connectors `κ`, with distances `α` and further
listeners `τ`. -/
structure Pane (ε κ α τ : Type) [Engine ε] where
  session : Session ε κ (Listener τ)
  context : Presentation.Context (ViewState α)
  palette : Palette
  config : Config

namespace Pane

variable {ε κ α τ : Type} [Engine ε] [Scroll.Distance α]

def ofConfig (config : Config) : Pane ε κ α τ :=
  { session := ((Session.ofConfig config).addListener .view).1
    context := { state := .ofConfig config }
    palette := config.colors
    config }

def view (pane : Pane ε κ α τ) : ViewState α := pane.context.state

def updateView (pane : Pane ε κ α τ) (change : ViewState α → ViewState α) : Pane ε κ α τ :=
  { pane with context := pane.context.update change }

/-- Installs a waker, which is called when there is something to pump. -/
def setWaker (pane : Pane ε κ α τ) (weight : Nat) : Pane ε κ α τ :=
  { pane with context := pane.context.setWaker weight }

/-- Tells listeners of changes. The view gets a job each; the others come out. -/
def deliver (pane : Pane ε κ α τ) :
    List (Listener τ × BufferChange) → Pane ε κ α τ × List (τ × BufferChange)
  | [] => (pane, [])
  | (.view, change) :: rest =>
    { pane with context := pane.context.submit (ViewState.changeJob change) }.deliver rest
  | (.guest tag, change) :: rest =>
    let (next, told) := pane.deliver rest
    (next, (tag, change) :: told)

/-- Applies the changes that have been announced, and counts them. -/
def pump (pane : Pane ε κ α τ) : Pane ε κ α τ × Nat :=
  let (context, applied) := pane.context.drain
  ({ pane with context }, applied)

def needsRender (pane : Pane ε κ α τ) : Bool := pane.context.pending || pane.view.dirty

/-- Builds a frame of the size of the session, without a change to the pane. -/
def build (pane : Pane ε κ α τ) (buffer : Except LockError BufferView) :
    Except RenderError Frame :=
  Frame.build buffer pane.session.style pane.session.size.columns pane.session.size.rows
    pane.view.scroll.origin pane.palette

/-- Pumps and builds a frame. While somebody else holds the buffer, the last good frame
stands in. -/
def render (pane : Pane ε κ α τ) (held : Bool) : Pane ε κ α τ × Except RenderError Frame :=
  let (pumped, _) := pane.pump
  let buffer := if held then .error .timeout else .ok pumped.session.view
  let (view, outcome) := pumped.view.takeFrame (pumped.build buffer)
  (pumped.updateView fun _ => view, outcome)

def scrollWith (pane : Pane ε κ α τ) (move : Scroll.State α → Scroll.State α × Bool) :
    Pane ε κ α τ × Bool :=
  let (view, moved) := pane.view.scrollWith move
  (pane.updateView fun _ => view, moved)

def drag (pane : Pane ε κ α τ) (delta height : α) : Pane ε κ α τ × Bool :=
  pane.scrollWith (·.drag delta height)

/-- Scrolls by whole lines; positive numbers go to older lines. -/
def scrollLines (pane : Pane ε κ α τ) (lines : Int) : Pane ε κ α τ × Bool :=
  pane.scrollWith (·.scrollLines lines)

def scrollToBottom (pane : Pane ε κ α τ) : Pane ε κ α τ :=
  pane.updateView ViewState.scrollToBottom

/-- Takes new settings over, all but the size and the history of the screen. -/
def configure (pane : Pane ε κ α τ) (config : Config) : Pane ε κ α τ :=
  { pane with
    session := { pane.session with style := .ofConfig config }
    context := pane.context.update (ViewState.configure config)
    palette := config.colors
    config }

variable [Connector κ]

def start (pane : Pane ε κ α τ) (connector : κ) : Pane ε κ α τ × Except Session.Error Unit :=
  let (session, outcome) := pane.session.start connector
  ({ pane with session }, outcome)

/-- Stops the session and forgets what is being composed. Gives the closed connector. -/
def stop (pane : Pane ε κ α τ) : Pane ε κ α τ × Option κ :=
  let (session, connector) := pane.session.stop
  ({ pane with
      session
      context := pane.context.update fun view => { view with input := view.input.reset } },
    connector)

/-- A round of the worker of the session. What listeners other than the view are told
comes out. -/
def work (pane : Pane ε κ α τ) (found : Round) : Pane ε κ α τ × List (τ × BufferChange) :=
  let (session, told) := pane.session.work found
  { pane with session }.deliver told

/-- A piece of output, applied and announced at once. -/
def output (pane : Pane ε κ α τ) (piece : List UInt8) : Pane ε κ α τ × List (τ × BufferChange) :=
  pane.work { received := .pieces [piece] }

def endOutput (pane : Pane ε κ α τ) : Pane ε κ α τ × List (τ × BufferChange) :=
  pane.work { received := .ended }

/-- Writes bytes to the session. A failure is passed over. -/
def write (pane : Pane ε κ α τ) (bytes : List UInt8) : Pane ε κ α τ :=
  { pane with session := (pane.session.send bytes).1 }

def sendText (pane : Pane ε κ α τ) (text : String) : Pane ε κ α τ := pane.write (Text.bytes text)

def outgoingBytes : Composition.Outgoing → List UInt8
  | .text text => Text.bytes text
  | .bytes bytes => bytes

/-- Writes what an event leads to. Anything to write brings the live screen back first. -/
def dispatch (pane : Pane ε κ α τ) (sends : List Composition.Outgoing) : Pane ε κ α τ :=
  if sends.isEmpty then pane
  else sends.foldl (fun pane outgoing => pane.write (outgoingBytes outgoing)) pane.scrollToBottom

/-- Takes an event of the input method or a keyboard. Says whether nobody else may handle
it. -/
def handle (pane : Pane ε κ α τ) (event : Composition.Event) : Pane ε κ α τ × Bool :=
  let encoder := Xterm.encoder pane.session.applicationCursor
  let (input, response) := pane.view.input.step encoder event
  ((pane.updateView fun view => { view with input }).dispatch response.sends, response.handled)

/-- Fits the grid into an area, with cells of the given size. Gives the size of the grid.
A cell without any extent leaves everything as it is. -/
def fit [Extent α] (pane : Pane ε κ α τ) (width height cellWidth cellHeight : α) :
    Pane ε κ α τ × Size :=
  let current := pane.session.size
  if !(Extent.isPositive cellWidth && Extent.isPositive cellHeight) then (pane, current)
  else
    let size := (Size.fitting width height cellWidth cellHeight).clamped
    if size = current then (pane, size)
    else
      ({ pane with
          session := (pane.session.resize size).1
          context := pane.context.update fun view => { view with dirty := true } },
        size)

end Pane

end TtyFrame

import TtyFrame.Connector
import TtyFrame.Session.Listeners
import TtyFrame.Session.Worker
import TtyFrame.Text.Bytes

/-!
# Sessions

A session is a screen, the connector whose output it shows, the worker that applies the
output, and the listeners that are told of changes. It is created idle, and the screen
outlives every connector.
-/

set_option autoImplicit false

namespace TtyFrame

/-- A session over an engine with screens `ε`, connectors `κ` and listeners `τ`. -/
structure Session (ε κ τ : Type) [Engine ε] where
  size : Size
  screen : ε
  style : DefaultStyle
  connector : Option κ := none
  worker : Option (Worker ε) := none
  /-- The output has ended, or the session was stopped. -/
  exited : Bool := false
  listeners : Listeners τ := {}

namespace Session

inductive Error where
  | reader (cause : Fault)
  | size (cause : Fault)
  | write (cause : Fault)
  | resize (cause : Fault)
deriving DecidableEq, Repr

def Error.message : Error → String
  | .reader cause => "Failed to get connector reader: " ++ cause.message
  | .size cause => "Failed to size connector: " ++ cause.message
  | .write cause => "Failed to write to connector: " ++ cause.message
  | .resize cause => "Failed to resize connector: " ++ cause.message

/-- The width of a cell in pixels, as far as programs are told. -/
def cellWidth : Nat := 8

def cellHeight : Nat := 16

def replyText (size : Size) : Reply → String
  | .text text => text
  | .pixelSize =>
    "\x1b[4;" ++ toString (size.rows * cellHeight) ++ ";" ++
      toString (size.columns * cellWidth) ++ "t"

variable {ε κ τ : Type} [Engine ε]

/-- An idle session of the size that the settings ask for. -/
def ofConfig (config : Config) : Session ε κ τ :=
  let size := Size.ofConfig config
  { size
    screen := Engine.blank size.columns size.rows config.effectiveScrollback
    style := .ofConfig config }

def view (session : Session ε κ τ) : BufferView := Engine.view session.screen

/-- The program has switched the cursor keys to application mode. -/
def applicationCursor (session : Session ε κ τ) : Bool :=
  Engine.applicationCursor session.screen

def generation (session : Session ε κ τ) : Nat := (session.worker.map (·.generation)).getD 0

/-- There is a worker that still takes output. -/
def isReading (session : Session ε κ τ) : Bool := (session.worker.map (!·.done)).getD false

def addListener (session : Session ε κ τ) (listener : τ) : Session ε κ τ × ListenerId :=
  let (listeners, id) := session.listeners.add listener
  ({ session with listeners }, id)

def removeListener (session : Session ε κ τ) (id : ListenerId) : Session ε κ τ × Bool :=
  let (listeners, found) := session.listeners.remove id
  ({ session with listeners }, found)

/-- What the listeners are told of changes: for each change, each of them in order. -/
def tell (session : Session ε κ τ) (changes : List BufferChange) : List (τ × BufferChange) :=
  changes.flatMap fun change =>
    session.listeners.notify (fun told listener => told ++ [(listener, change)]) []

variable [Connector κ]

/-- Attaches a connector that has given its reader away and taken the size of the grid.
While there is a worker, nothing happens. -/
def start (session : Session ε κ τ) (connector : κ) : Session ε κ τ × Except Error Unit :=
  if session.worker.isSome then (session, .ok ())
  else
    match Connector.takeReader connector with
    | (_, .error cause) => (session, .error (.reader cause))
    | (connector, .ok ()) =>
      match Connector.resize connector session.size with
      | (_, .error cause) => (session, .error (.size cause))
      | (connector, .ok ()) =>
        ({ session with connector := some connector, worker := some {}, exited := false }, .ok ())

/-- Closes the connector and lets go of it and of the worker. Gives the closed connector. -/
def stop (session : Session ε κ τ) : Session ε κ τ × Option κ :=
  ({ session with connector := none, worker := none, exited := true },
    session.connector.map Connector.close)

/-- Writes bytes to the connector. Without one they are dropped. -/
def send (session : Session ε κ τ) (bytes : List UInt8) : Session ε κ τ × Except Error Unit :=
  if bytes.isEmpty then (session, .ok ())
  else
    match session.connector with
    | none => (session, .ok ())
    | some connector =>
      let (connector, outcome) := Connector.write connector bytes
      ({ session with connector := some connector }, outcome.mapError .write)

def sendText (session : Session ε κ τ) (text : String) : Session ε κ τ × Except Error Unit :=
  session.send (Text.bytes text)

/-- Resizes the grid and then the connector. A size that is recorded already is taken for
done. -/
def resize (session : Session ε κ τ) (size : Size) : Session ε κ τ × Except Error Unit :=
  let size := size.clamped
  if session.size = size then (session, .ok ())
  else
    -- The size is recorded whether or not the connector will take it.
    let screen := Engine.resize session.screen size.columns size.rows
    let session := { session with size, screen }
    match session.connector with
    | none => (session, .ok ())
    | some connector =>
      let (connector, outcome) := Connector.resize connector size
      ({ session with connector := some connector }, outcome.mapError .resize)

/-- Writes replies to the connector, each by itself. One that cannot be written is lost. -/
def reply (session : Session ε κ τ) (replies : List Reply) : Session ε κ τ :=
  match session.connector with
  | none => session
  | some connector =>
    let connector := replies.foldl (fun connector reply =>
      (Connector.write connector (Text.bytes (replyText session.size reply))).1) connector
    { session with connector := some connector }

/-- A round of the worker: the output goes to the screen, the replies go to the connector,
and what the listeners are told comes out. -/
def work (session : Session ε κ τ) (found : Round) : Session ε κ τ × List (τ × BufferChange) :=
  match session.worker with
  | none => (session, [])
  | some worker =>
    let next := ({ worker, screen := session.screen : Progress ε }).round found
    let session :=
      { session with
        worker := some next.worker
        screen := next.screen
        exited := session.exited || found.exited || found.received = Receipt.ended }
    (session.reply next.replies, session.tell next.announced)

/-- A piece of output, applied and announced at once. -/
def output (session : Session ε κ τ) (piece : List UInt8) :
    Session ε κ τ × List (τ × BufferChange) :=
  session.work { received := .pieces [piece] }

def endOutput (session : Session ε κ τ) : Session ε κ τ × List (τ × BufferChange) :=
  session.work { received := .ended }

/-- The most bytes of output that are read at once. -/
def readSize : Nat := 4096

/-- Output as it is read, in pieces of which only the last may be a short one. -/
def pieces (bytes : List UInt8) : List (List UInt8) :=
  if bytes.isEmpty then [] else bytes.take readSize :: pieces (bytes.drop readSize)
termination_by bytes.length
decreasing_by
  rename_i some
  have filled : bytes ≠ [] := by simpa using some
  have := List.length_pos_iff.mpr filled
  simp only [List.length_drop, readSize]
  omega

end Session

end TtyFrame

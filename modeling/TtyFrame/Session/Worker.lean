import TtyFrame.Engine

/-!
# The worker of a session

The worker takes output in batches, applies each to the screen and announces what has
changed. Announcements are held back while the last one is too recent, and a later batch
replaces one that is held back. The last batch is always announced.
-/

set_option autoImplicit false

namespace TtyFrame

structure BufferChange where
  /-- The number of batches applied so far. -/
  generation : Nat
  history : Nat
  alternate : Bool
deriving DecidableEq, Repr

/-- What a view says of the buffer after so many batches. -/
def BufferChange.ofView (generation : Nat) (view : BufferView) : BufferChange :=
  ⟨generation, view.history, view.alternate⟩

/-- What waiting for output ended with. -/
inductive Receipt where
  /-- The pieces that had come, oldest first. -/
  | pieces (pieces : List (List UInt8))
  | timeout
  /-- No more output can come. -/
  | ended
deriving DecidableEq, Repr

structure Round where
  received : Receipt
  /-- The last announcement is long enough ago for another one. -/
  due : Bool := true
  /-- The end of the stream was reported by the end of the round. -/
  exited : Bool := false
  /-- The pieces that had come by then and are still to be applied. -/
  late : List (List UInt8) := []
deriving DecidableEq, Repr

structure Worker (ε : Type) [Engine ε] where
  stream : Engine.Stream ε := Engine.fresh
  generation : Nat := 0
  /-- The change that is held back. -/
  pending : Option BufferChange := none
  /-- The worker has left its loop. -/
  done : Bool := false

/-- A worker with the screen it works on, and what has come out so far. -/
structure Progress (ε : Type) [Engine ε] where
  worker : Worker ε
  screen : ε
  batches : List (List UInt8) := []
  replies : List Reply := []
  announced : List BufferChange := []

namespace Progress

variable {ε : Type} [Engine ε]

/-- Applies a batch and holds its change back. -/
def apply (progress : Progress ε) (batch : List UInt8) : Progress ε :=
  let (stream, screen, replies) :=
    Engine.takeBytes progress.worker.stream progress.screen batch
  let generation := progress.worker.generation + 1
  { progress with
    worker :=
      { progress.worker with
        stream, generation
        pending := some (.ofView generation (Engine.view screen)) }
    screen
    batches := progress.batches ++ [batch]
    replies := progress.replies ++ replies }

def announce (progress : Progress ε) : Progress ε :=
  { progress with
    worker := { progress.worker with pending := none }
    announced := progress.announced ++ progress.worker.pending.toList }

/-- Applies what was received, as one batch. -/
def receive (progress : Progress ε) : Receipt → Progress ε
  | .pieces pieces => progress.apply pieces.flatten
  | .timeout | .ended => progress

/-- Applies what came late, announces the last change and leaves the loop. -/
def finish (progress : Progress ε) (late : List (List UInt8)) : Progress ε :=
  let last := (if late.flatten.isEmpty then progress else progress.apply late.flatten).announce
  { last with worker := { last.worker with done := true } }

def round (progress : Progress ε) (found : Round) : Progress ε :=
  if progress.worker.done then progress
  else
    let received := progress.receive found.received
    let told := if found.due then received.announce else received
    if found.exited || found.received = .ended then told.finish found.late else told

def run (progress : Progress ε) (rounds : List Round) : Progress ε := rounds.foldl round progress

end Progress

end TtyFrame

import TtyFrame.Presentation.Job

/-!
# A state with one owner

Only the owning thread touches the state. Others hand in jobs, and the owner runs them
when it drains the queue. A waker tells it that there is something to drain.
-/

set_option autoImplicit false

namespace TtyFrame.Presentation

/-- A state with the jobs that wait for it. -/
structure Context (σ : Type) where
  state : σ
  /-- The jobs handed in, oldest first. -/
  queue : List (Job σ) := []
  /-- Something was handed in since the queue was last taken. -/
  pending : Bool := false
  /-- What a call of the waker adds to the count of wakes, if there is a waker. -/
  waker : Option Nat := none
  wakes : Nat := 0
  /-- The state is lent out, so nothing else may touch it. -/
  borrowed : Bool := false

namespace Context

variable {σ : Type}

/-- Installs a waker in place of an earlier one. -/
def setWaker (context : Context σ) (weight : Nat) : Context σ :=
  { context with waker := some weight }

def push (context : Context σ) (job : Job σ) : Context σ :=
  { context with queue := context.queue ++ [job] }

/-- Raises the pending flag. Says whether it was raised before. -/
def raise (context : Context σ) : Context σ × Bool :=
  ({ context with pending := true }, context.pending)

def wake (context : Context σ) : Context σ :=
  { context with wakes := context.wakes + context.waker.getD 0 }

/-- Hands a job in. The waker is called for the first since the queue was taken. -/
def submit (context : Context σ) (job : Job σ) : Context σ :=
  let (raised, before) := (context.push job).raise
  if before then raised else raised.wake

def submitAll (context : Context σ) (jobs : List (Job σ)) : Context σ :=
  jobs.foldl submit context

/-- Runs a job against the state and hands in what it submits. -/
def perform (context : Context σ) (job : Job σ) : Context σ :=
  { context with state := job.act context.state }.submitAll job.next

/-- Runs a job on the owning thread: at once, or queued while the state is lent out. -/
def run (context : Context σ) (job : Job σ) : Context σ :=
  if context.borrowed then context.submit job else context.perform job

def lower (context : Context σ) : Context σ := { context with pending := false }

def take (context : Context σ) : Context σ × List (Job σ) :=
  ({ context with queue := [] }, context.queue)

/-- Lowers the flag and then takes the queue, so that a job that comes in between is
taken or wakes anew. -/
def takeQueue (context : Context σ) : Context σ × List (Job σ) := context.lower.take

/-- Changes the state while it is lent out to the change alone. -/
def update (context : Context σ) (change : σ → σ) : Context σ :=
  { context with state := change context.state }

/-- Takes the queue and runs what it held, as often as there is something in it, and
counts the jobs. -/
def rounds : Nat → Context σ → Context σ × Nat
  | 0, context => (context, 0)
  | fuel + 1, context =>
    let (taken, jobs) := context.takeQueue
    if jobs.isEmpty then (taken, 0)
    else
      let (last, ran) := rounds fuel (jobs.foldl perform taken)
      (last, jobs.length + ran)

/-- Runs all queued jobs and what they submit, oldest first, and counts them. Nothing
runs while the state is lent out. -/
def drain (context : Context σ) : Context σ × Nat :=
  if context.borrowed then (context, 0) else rounds (Job.countAll context.queue + 1) context

end Context

end TtyFrame.Presentation

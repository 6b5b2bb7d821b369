import TtyFrame.Presentation.Context

/-!
# Programs over an owned state

The calls that threads make on a state with one owner, nested as they may be, and what
each of them gives back.
-/

set_option autoImplicit false

namespace TtyFrame.Presentation

inductive Step (σ : Type) where
  | setWaker (weight : Nat)
  /-- Run a job now if possible. -/
  | run (job : Job σ)
  /-- Hand a job in. -/
  | submit (job : Job σ)
  /-- Hand jobs in from another thread. -/
  | submitAll (jobs : List (Job σ))
  | drain
  | isOwner
  /-- Change the state and make further calls while it is lent out. -/
  | within (act : σ → σ) (steps : List (Step σ))
  /-- Make a call on a thread that does not own the state. -/
  | elsewhere (step : Step σ)
deriving Inhabited

inductive Misuse where
  | drainedElsewhere
  | accessedElsewhere
  /-- The state was lent out already. -/
  | alreadyBorrowed
deriving DecidableEq, Repr

/-- What is wrong, in words; a second loan has no words of its own. -/
def Misuse.message? : Misuse → Option String
  | .drainedElsewhere => some "run_pending called off the presentation thread"
  | .accessedElsewhere => some "presentation state accessed off its thread"
  | .alreadyBorrowed => none

inductive Outcome where
  | nothing
  | count (ran : Nat)
  | answer (yes : Bool)
  | all (outcomes : List Outcome)
  | panic (misuse : Misuse)
deriving Inhabited

namespace Step

variable {σ : Type}

mutual

/-- Makes a call; `owner` says whether the owning thread makes it. -/
def perform (owner : Bool) (context : Context σ) : Step σ → Context σ × Outcome
  | .setWaker weight => (context.setWaker weight, .nothing)
  | .run job => (if owner then context.run job else context.submit job, .nothing)
  | .submit job => (context.submit job, .nothing)
  | .submitAll jobs =>
    let next := context.submitAll jobs
    (next, .answer next.pending)
  | .drain =>
    if owner then
      let (next, ran) := context.drain
      (next, .count ran)
    else (context, .panic .drainedElsewhere)
  | .isOwner => (context, .answer owner)
  | .within act steps =>
    if !owner then (context, .panic .accessedElsewhere)
    else if context.borrowed then (context, .panic .alreadyBorrowed)
    else
      let (next, outcomes) :=
        performAll owner { context with state := act context.state, borrowed := true } steps
      ({ next with borrowed := false }, .all outcomes)
  | .elsewhere step => perform false context step

def performAll (owner : Bool) (context : Context σ) :
    List (Step σ) → Context σ × List Outcome
  | [] => (context, [])
  | step :: rest =>
    let (next, outcome) := perform owner context step
    let (last, outcomes) := performAll owner next rest
    (last, outcome :: outcomes)

end

end Step

end TtyFrame.Presentation

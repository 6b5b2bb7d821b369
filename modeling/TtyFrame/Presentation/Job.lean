/-!
# Jobs on a state

A job changes the state of its owner and then submits further jobs.
-/

set_option autoImplicit false

namespace TtyFrame.Presentation

/-- A job: what it does to the state, and the jobs that it submits afterwards. -/
inductive Job (σ : Type) where
  | mk (act : σ → σ) (next : List (Job σ))

namespace Job

variable {σ : Type}

def act : Job σ → σ → σ
  | mk act _ => act

def next : Job σ → List (Job σ)
  | mk _ next => next

def single (act : σ → σ) : Job σ := mk act []

instance : Inhabited (Job σ) := ⟨single id⟩

mutual

/-- The number of jobs that a job stands for: itself and all that come of it. -/
def count : Job σ → Nat
  | mk _ next => 1 + countAll next

def countAll : List (Job σ) → Nat
  | [] => 0
  | job :: rest => job.count + countAll rest

end

end Job

end TtyFrame.Presentation

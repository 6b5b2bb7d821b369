import TtyFrame.Proofs.Presentation.Drain

/-! The order of a drain. It takes jobs in whole rounds while they fill the queue anew, and
still runs them as one queue would that gives them out one by one. -/

set_option autoImplicit false

namespace TtyFrame.Presentation

variable {σ : Type}

namespace Job

private theorem countAll_turn_lt (job : Job σ) (rest : List (Job σ)) :
    countAll (rest ++ job.next) < countAll (job :: rest) := by
  have own := job.count_eq
  rw [countAll_append, countAll]
  omega

/-- The jobs in the order of a plain queue. The first one runs, and what it submits goes to
the end. -/
def inTurn : List (Job σ) → List (Job σ)
  | [] => []
  | job :: rest => job :: inTurn (rest ++ job.next)
termination_by jobs => countAll jobs
decreasing_by exact countAll_turn_lt job rest

/-- What a plain queue runs is run level by level: the jobs that wait, then what all of them
submit, and so on. -/
theorem inTurn_append (first rest : List (Job σ)) :
    inTurn (first ++ rest) = first ++ inTurn (rest ++ first.flatMap next) := by
  induction first generalizing rest with
  | nil => rw [List.nil_append, List.nil_append, List.flatMap_nil, List.append_nil]
  | cons job later ih =>
    rw [List.cons_append, inTurn, List.append_assoc, ih, List.append_assoc, List.flatMap_cons,
      List.cons_append]

theorem inTurn_levels (jobs : List (Job σ)) :
    inTurn jobs = jobs ++ inTurn (jobs.flatMap next) := by
  have levels := inTurn_append jobs []
  rwa [List.append_nil, List.nil_append] at levels

mutual

/-- A job and all that come of it. -/
def all : Job σ → List (Job σ)
  | mk act next => mk act next :: allOf next

def allOf : List (Job σ) → List (Job σ)
  | [] => []
  | job :: rest => job.all ++ allOf rest

end

private theorem all_eq (job : Job σ) : job.all = job :: allOf job.next := by
  cases job with
  | mk act next => rw [all, Job.next]

private theorem allOf_append (first second : List (Job σ)) :
    allOf (first ++ second) = allOf first ++ allOf second := by
  induction first with
  | nil => rfl
  | cons job rest ih => rw [List.cons_append, allOf, ih, allOf, List.append_assoc]

/-- A plain queue leaves no job out and runs none twice. -/
theorem inTurn_perm (jobs : List (Job σ)) : (inTurn jobs).Perm (allOf jobs) := by
  induction jobs using inTurn.induct with
  | case1 => rw [inTurn, allOf]
  | case2 job rest ih =>
    rw [allOf_append] at ih
    rw [inTurn, allOf, all_eq, List.cons_append]
    exact (ih.trans List.perm_append_comm).cons job

end Job

namespace Context

theorem submitAll_state (context : Context σ) (jobs : List (Job σ)) :
    (context.submitAll jobs).state = context.state := by
  induction jobs generalizing context with
  | nil => rfl
  | cons job rest ih => rw [submitAll, List.foldl_cons, ← submitAll, ih, submit_eq]

theorem perform_state (context : Context σ) (job : Job σ) :
    (context.perform job).state = job.act context.state := by
  rw [perform, submitAll_state]

private theorem foldl_perform_state (context : Context σ) (jobs : List (Job σ)) :
    (jobs.foldl perform context).state =
      jobs.foldl (fun state job => job.act state) context.state := by
  induction jobs generalizing context with
  | nil => rfl
  | cons job rest ih => rw [List.foldl_cons, ih, perform_state, List.foldl_cons]

/-- A round leaves the next level of jobs in the queue. -/
theorem round_queue (context : Context σ) :
    (context.queue.foldl perform context.takeQueue.1).queue =
      context.queue.flatMap Job.next := foldl_perform_queue _ _

/-- The rounds run what a plain queue runs, and in its order. -/
theorem rounds_in_turn {fuel : Nat} {context : Context σ}
    (enough : Job.countAll context.queue < fuel) :
    (rounds fuel context).1.state =
        (Job.inTurn context.queue).foldl (fun state job => job.act state) context.state ∧
      (rounds fuel context).2 = (Job.inTurn context.queue).length := by
  induction fuel, context, enough using rounds_induct with
  | idle fuel context _ empty =>
    rw [rounds_succ, if_pos empty, empty, Job.inTurn]
    exact ⟨rfl, rfl⟩
  | round fuel context _ _ waiting ih =>
    obtain ⟨state, ran⟩ := ih
    rw [rounds_succ, if_neg waiting, state, ran, round_queue, foldl_perform_state,
      Job.inTurn_levels context.queue, List.foldl_append, List.length_append]
    exact ⟨rfl, rfl⟩

theorem drain_in_turn {context : Context σ} (free : context.borrowed = false) :
    context.drain.1.state =
        (Job.inTurn context.queue).foldl (fun state job => job.act state) context.state ∧
      context.drain.2 = (Job.inTurn context.queue).length := by
  rw [drain, if_neg (by rw [free]; exact Bool.false_ne_true)]
  exact rounds_in_turn (Nat.lt_succ_self _)

example :
    let named (name : Char) : List (Job (List Char)) → Job (List Char) := .mk (· ++ [name])
    let context : Context (List Char) :=
      { state := []
        queue := [named 'a' [named 'c' [named 'e' []]], named 'b' [named 'd' []]]
        pending := true }
    (context.drain.1.state, context.drain.2) = (['a', 'b', 'c', 'd', 'e'], 5) := rfl

end Context

end TtyFrame.Presentation

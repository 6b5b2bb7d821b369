import TtyFrame.Presentation.Context

/-! What a drain leaves behind. A round runs the jobs it took and gathers what they submit,
so the jobs that are still to come become fewer with every round, and a drain ends with
an empty queue and the flag down. -/

set_option autoImplicit false

namespace TtyFrame.Presentation

variable {σ : Type}

namespace Job

theorem countAll_append (first second : List (Job σ)) :
    countAll (first ++ second) = countAll first + countAll second := by
  induction first with
  | nil => exact (Nat.zero_add _).symm
  | cons job rest ih => simp only [List.cons_append, countAll, ih, Nat.add_assoc]

theorem count_eq (job : Job σ) : job.count = 1 + countAll job.next := by
  cases job with
  | mk act next => rw [count, Job.next]

/-- What a list of jobs submits stands for all the jobs of the list but the list itself. -/
theorem countAll_flatMap_next (jobs : List (Job σ)) :
    countAll (jobs.flatMap next) + jobs.length = countAll jobs := by
  induction jobs with
  | nil => rfl
  | cons job rest ih =>
      have own := job.count_eq
      simp only [List.flatMap_cons, countAll_append, List.length_cons, countAll]
      omega

end Job

namespace Context

theorem submit_eq (context : Context σ) (job : Job σ) :
    context.submit job =
      { context with
        queue := context.queue ++ [job]
        pending := true
        wakes := context.wakes + if context.pending then 0 else context.waker.getD 0 } := by
  cases raised : context.pending <;> simp [submit, push, raise, wake, raised]

theorem submitAll_queue (context : Context σ) (jobs : List (Job σ)) :
    (context.submitAll jobs).queue = context.queue ++ jobs := by
  induction jobs generalizing context with
  | nil => exact (List.append_nil _).symm
  | cons job rest ih =>
      rw [submitAll, List.foldl_cons, ← submitAll, ih, submit_eq, List.append_assoc]
      rfl

theorem update_submitAll (context : Context σ) (change : σ → σ) (jobs : List (Job σ)) :
    (context.update change).submitAll jobs = (context.submitAll jobs).update change := by
  induction jobs generalizing context with
  | nil => rfl
  | cons job rest ih =>
    have first : (context.update change).submit job = (context.submit job).update change := by
      simp only [submit_eq]
      rfl
    simp only [submitAll, List.foldl_cons, first]
    exact ih (context.submit job)

theorem submitAll_borrowed (context : Context σ) (jobs : List (Job σ)) :
    (context.submitAll jobs).borrowed = context.borrowed := by
  induction jobs generalizing context with
  | nil => rfl
  | cons job rest ih => rw [submitAll, List.foldl_cons, ← submitAll, ih, submit_eq]

theorem submitAll_raised {context : Context σ}
    (raised : context.pending = true → context.queue ≠ []) (jobs : List (Job σ)) :
    (context.submitAll jobs).pending = true → (context.submitAll jobs).queue ≠ [] := by
  cases jobs with
  | nil => exact raised
  | cons job rest =>
    intro _
    rw [submitAll_queue]
    exact List.append_ne_nil_of_right_ne_nil _ (List.cons_ne_nil _ _)

theorem perform_queue (context : Context σ) (job : Job σ) :
    (context.perform job).queue = context.queue ++ job.next := by
  rw [perform, submitAll_queue]

theorem foldl_perform_queue (context : Context σ) (jobs : List (Job σ)) :
    (jobs.foldl perform context).queue = context.queue ++ jobs.flatMap Job.next := by
  induction jobs generalizing context with
  | nil => exact (List.append_nil _).symm
  | cons job rest ih =>
      rw [List.foldl_cons, ih, perform_queue, List.flatMap_cons, List.append_assoc]

/-- What is in the queue after a round stands for fewer jobs than before. -/
theorem countAll_round_lt {context : Context σ} (waiting : context.queue ≠ []) :
    Job.countAll (context.queue.foldl perform context.takeQueue.1).queue <
      Job.countAll context.queue := by
  have some := List.length_pos_iff.mpr waiting
  have fewer := Job.countAll_flatMap_next context.queue
  rw [foldl_perform_queue]
  simp only [takeQueue, take, List.nil_append]
  omega

theorem rounds_succ (fuel : Nat) (context : Context σ) :
    rounds (fuel + 1) context =
      if context.queue = [] then (context.takeQueue.1, 0)
      else
        ((rounds fuel (context.queue.foldl perform context.takeQueue.1)).1,
          context.queue.length +
            (rounds fuel (context.queue.foldl perform context.takeQueue.1)).2) := by
  simp only [← List.isEmpty_iff]
  rfl

theorem rounds_induct
    {motive : (fuel : Nat) → (context : Context σ) → Job.countAll context.queue < fuel → Prop}
    (idle : ∀ fuel context enough, context.queue = [] → motive (fuel + 1) context enough)
    (round : ∀ fuel context enough fewer, context.queue ≠ [] →
      motive fuel (context.queue.foldl perform context.takeQueue.1) fewer →
        motive (fuel + 1) context enough)
    (fuel : Nat) (context : Context σ) (enough : Job.countAll context.queue < fuel) :
    motive fuel context enough := by
  -- The fuel covers all jobs that can still come, and each round leaves fewer of them.
  induction fuel generalizing context with
  | zero => exact absurd enough (Nat.not_lt_zero _)
  | succ fuel ih =>
      by_cases empty : context.queue = []
      · exact idle fuel context enough empty
      · have fewer := Nat.lt_of_lt_of_le (countAll_round_lt empty) (Nat.le_of_lt_succ enough)
        exact round fuel context enough fewer empty (ih _ fewer)

theorem rounds_settles {fuel : Nat} {context : Context σ}
    (enough : Job.countAll context.queue < fuel) :
    (rounds fuel context).1.queue = [] ∧ (rounds fuel context).1.pending = false := by
  induction fuel, context, enough using rounds_induct with
  | idle fuel context _ empty =>
      rw [rounds_succ, if_pos empty]
      exact ⟨rfl, rfl⟩
  | round fuel context _ _ waiting ih =>
      rw [rounds_succ, if_neg waiting]
      exact ih

theorem drain_settles {context : Context σ} (free : context.borrowed = false) :
    context.drain.1.queue = [] ∧ context.drain.1.pending = false := by
  rw [drain, free]
  exact rounds_settles (Nat.lt_succ_self _)

/-- Jobs that submit nothing change the state and nothing else. -/
theorem foldl_perform_leaves (context : Context σ) {jobs : List (Job σ)}
    (leaves : ∀ job ∈ jobs, job.next = []) :
    jobs.foldl perform context =
      { context with state := jobs.foldl (fun state job => job.act state) context.state } := by
  induction jobs generalizing context with
  | nil => rfl
  | cons job rest ih =>
      rw [List.foldl_cons, List.foldl_cons, perform, leaves job List.mem_cons_self]
      exact ih _ fun job member => leaves job (List.mem_cons_of_mem _ member)

theorem drain_leaves {context : Context σ} (free : context.borrowed = false)
    (leaves : ∀ job ∈ context.queue, job.next = []) :
    context.drain.1 =
      { context with
        state := context.queue.foldl (fun state job => job.act state) context.state
        queue := []
        pending := false } := by
  rw [drain, if_neg (by rw [free]; exact Bool.false_ne_true), rounds_succ]
  by_cases empty : context.queue = []
  · rw [if_pos empty, empty]
    rfl
  · have fewer := countAll_round_lt empty
    obtain ⟨fuel, enough⟩ := Nat.exists_eq_succ_of_ne_zero (Nat.ne_zero_of_lt fewer)
    have ran := foldl_perform_leaves context.takeQueue.1 leaves
    have settled : (context.queue.foldl perform context.takeQueue.1).queue = [] := by
      rw [ran]
      rfl
    rw [if_neg empty, enough, rounds_succ, if_pos settled, ran]
    rfl

end Context

end TtyFrame.Presentation

import Mathlib.Logic.Function.Basic
import Mathlib.Logic.Relation
import TtyFrame.Proofs.Presentation.Drain

/-! Threads that hand jobs in while the owner drains the queue. A step touches the queue,
the flag or the waker once, and the steps of different threads come in any order. While
nothing is under way, jobs that wait have been announced: the flag is up, and the waker was
called after the flag was last lowered. -/

set_option autoImplicit false

namespace TtyFrame.Presentation

/-- How far a thread has come in handing a job in. -/
inductive Handing where
  | idle
  /-- The job is in the queue, and the flag comes next. -/
  | pushed
  /-- The flag was down, and the waker comes next. -/
  | raised
deriving DecidableEq, Repr

/-- How far the owner has come in a drain. -/
inductive Draining (σ : Type) where
  | outside
  /-- The flag is down, and the queue comes next. -/
  | lowered
  /-- What the job that ran last has yet to submit, and the jobs to run after it. -/
  | running (submitted taken : List (Job σ))

/-- A state with its owner, who is the thread `none`, and with threads `ι` that hand jobs
in. -/
structure Threads (ι σ : Type) where
  context : Context σ
  handing : Option ι → Handing := fun _ => .idle
  draining : Draining σ := .outside
  /-- The count of wakes when the flag was last lowered, or zero. -/
  wakesAtLower : Nat := 0

namespace Threads

variable {ι σ : Type}

/-- A state that nobody has used yet, with a waker. -/
def initial (weight : Nat) (state : σ) : Threads ι σ :=
  { context := { state, waker := some weight } }

def lower (threads : Threads ι σ) : Threads ι σ :=
  { threads with
    context := threads.context.lower
    draining := .lowered
    wakesAtLower := threads.context.wakes }

def take (threads : Threads ι σ) : Threads ι σ :=
  let (context, jobs) := threads.context.take
  { threads with
    context
    draining := if jobs.isEmpty then .outside else .running [] jobs }

/-- Lets a job act, so that its submissions come next. -/
def begin (threads : Threads ι σ) (job : Job σ) (rest : List (Job σ)) : Threads ι σ :=
  { threads with
    context := { threads.context with state := job.act threads.context.state }
    draining := .running job.next rest }

/-- The owner after the last job of a round, with the context that the round has led to. -/
def ranAll (threads : Threads ι σ) (context : Context σ) : Threads ι σ :=
  { threads with context, draining := .running [] [] }

/-- What keeps a job from waiting unseen. A job in the queue has its flag up, or somebody
is about to raise the flag or to take the queue; a flag that is up has been told to the
waker, or somebody is about to tell it. -/
structure Watched (weight : Nat) (threads : Threads ι σ) : Prop where
  waker : threads.context.waker = some weight
  counted : threads.wakesAtLower ≤ threads.context.wakes
  seen : threads.context.queue ≠ [] →
    threads.context.pending = true ∨ threads.draining = .lowered ∨
      ∃ thread, threads.handing thread = .pushed
  told : threads.context.pending = true →
    threads.wakesAtLower < threads.context.wakes ∨ ∃ thread, threads.handing thread = .raised

theorem initial_watched (weight : Nat) (state : σ) :
    (initial weight state : Threads ι σ).Watched weight where
  waker := rfl
  counted := Nat.le_refl _
  seen waiting := absurd rfl waiting
  told raised := absurd raised Bool.false_ne_true

private theorem handing_ne {threads : Threads ι σ} {thread other : Option ι} {here there : Handing}
    (at_thread : threads.handing thread = here) (at_other : threads.handing other = there)
    (different : there ≠ here) : other ≠ thread := by
  intro same
  rw [same, at_thread] at at_other
  exact different at_other.symm

section

variable {weight : Nat} {threads : Threads ι σ}

theorem Watched.lower (watched : threads.Watched weight) : threads.lower.Watched weight where
  waker := watched.waker
  counted := Nat.le_refl _
  seen _ := .inr (.inl rfl)
  told up := absurd up Bool.false_ne_true

theorem Watched.take (watched : threads.Watched weight) : threads.take.Watched weight where
  waker := watched.waker
  counted := watched.counted
  seen waiting := absurd rfl waiting
  told := watched.told

/-- Within a drain that has taken the queue, it does not matter what is left to run. -/
theorem Watched.run_on (watched : threads.Watched weight) {submitted taken : List (Job σ)}
    (running : threads.draining = .running submitted taken) (state : σ)
    (draining : Draining σ) :
    Watched weight
      { threads with context := { threads.context with state }, draining } where
  waker := watched.waker
  counted := watched.counted
  seen waiting := by
    rcases watched.seen waiting with up | lowered | pushed
    · exact .inl up
    · rw [running] at lowered
      cases lowered
    · exact .inr (.inr pushed)
  told := watched.told

end

variable [DecidableEq ι]

def push (threads : Threads ι σ) (thread : Option ι) (job : Job σ) : Threads ι σ :=
  { threads with
    context := threads.context.push job
    handing := Function.update threads.handing thread .pushed }

def raise (threads : Threads ι σ) (thread : Option ι) : Threads ι σ :=
  let (context, before) := threads.context.raise
  { threads with
    context
    handing := Function.update threads.handing thread (if before then .idle else .raised) }

def wake (threads : Threads ι σ) (thread : Option ι) : Threads ι σ :=
  { threads with
    context := threads.context.wake
    handing := Function.update threads.handing thread .idle }

/-- One step of one thread. -/
inductive Step : Threads ι σ → Threads ι σ → Prop where
  | push {threads} (thread : ι) (job : Job σ) (idle : threads.handing (some thread) = .idle) :
      Step threads (threads.push (some thread) job)
  /-- The owner hands a job in while it does not drain. -/
  | own {threads} (job : Job σ) (idle : threads.handing none = .idle)
      (outside : threads.draining = .outside) : Step threads (threads.push none job)
  /-- The job that ran last hands a job in. -/
  | submit {threads} {job : Job σ} {rest taken : List (Job σ)}
      (idle : threads.handing none = .idle)
      (running : threads.draining = .running (job :: rest) taken) :
      Step threads ({ threads with draining := .running rest taken }.push none job)
  | raise {threads} (thread : Option ι) (pushed : threads.handing thread = .pushed) :
      Step threads (threads.raise thread)
  | wake {threads} (thread : Option ι) (raised : threads.handing thread = .raised) :
      Step threads (threads.wake thread)
  | enter {threads} (idle : threads.handing none = .idle)
      (outside : threads.draining = .outside) : Step threads threads.lower
  /-- All jobs of a round have run, and the next round begins. -/
  | again {threads} (idle : threads.handing none = .idle)
      (done : threads.draining = .running [] []) : Step threads threads.lower
  | take {threads} (lowered : threads.draining = .lowered) : Step threads threads.take
  | begin {threads} {job : Job σ} {rest : List (Job σ)} (idle : threads.handing none = .idle)
      (running : threads.draining = .running [] (job :: rest)) :
      Step threads (threads.begin job rest)

/-- Any number of steps, in any order that the threads allow. -/
abbrev Steps : Threads ι σ → Threads ι σ → Prop := Relation.ReflTransGen Step

namespace Watched

variable {weight : Nat} {threads : Threads ι σ}

theorem push (watched : threads.Watched weight) {thread : Option ι} (job : Job σ)
    (idle : threads.handing thread = .idle) : (threads.push thread job).Watched weight where
  waker := watched.waker
  counted := watched.counted
  seen _ := .inr (.inr ⟨thread, Function.update_self ..⟩)
  told up := by
    rcases watched.told up with called | ⟨other, raised⟩
    · exact .inl called
    · have apart := handing_ne idle raised (by decide)
      exact .inr ⟨other, (Function.update_of_ne apart _ _).trans raised⟩

theorem raise (watched : threads.Watched weight) {thread : Option ι}
    (pushed : threads.handing thread = .pushed) : (threads.raise thread).Watched weight where
  waker := watched.waker
  counted := watched.counted
  seen _ := .inl rfl
  told _ := by
    cases before : threads.context.pending with
    | false =>
        refine .inr ⟨thread, ?_⟩
        simp only [Threads.raise, Context.raise, before, Function.update_self]
        rfl
    | true =>
        -- Whoever raised the flag before has called the waker or is about to.
        rcases watched.told before with called | ⟨other, raised⟩
        · exact .inl called
        · have apart := handing_ne pushed raised (by decide)
          exact .inr ⟨other, (Function.update_of_ne apart _ _).trans raised⟩

theorem wake (watched : threads.Watched weight) (installed : 0 < weight) {thread : Option ι}
    (raised : threads.handing thread = .raised) : (threads.wake thread).Watched weight := by
  have more : threads.context.wake.wakes = threads.context.wakes + weight := by
    simp only [Context.wake, watched.waker, Option.getD_some]
  have before := watched.counted
  refine ⟨watched.waker, ?_, ?_, fun _ => .inl ?_⟩
  · simp only [Threads.wake, more]
    omega
  · intro waiting
    rcases watched.seen waiting with up | lowered | ⟨other, pushed⟩
    · exact .inl up
    · exact .inr (.inl lowered)
    · have apart := handing_ne raised pushed (by decide)
      exact .inr (.inr ⟨other, (Function.update_of_ne apart _ _).trans pushed⟩)
  · simp only [Threads.wake, more]
    omega

theorem step {next : Threads ι σ} (watched : threads.Watched weight) (installed : 0 < weight)
    (step : Step threads next) : next.Watched weight := by
  cases step with
  | push thread job idle => exact watched.push job idle
  | own job idle outside => exact watched.push job idle
  | submit idle running => exact (watched.run_on running _ _).push _ idle
  | raise thread pushed => exact watched.raise pushed
  | wake thread raised => exact watched.wake installed raised
  | enter idle outside => exact watched.lower
  | again idle done => exact watched.lower
  | take lowered => exact watched.take
  | begin idle running => exact watched.run_on running _ _

theorem steps {next : Threads ι σ} (watched : threads.Watched weight) (installed : 0 < weight)
    (steps : Steps threads next) : next.Watched weight := by
  induction steps with
  | refl => exact watched
  | tail _ last ih => exact ih.step installed last

end Watched

/-- The steps of one thread, with no other step between them, hand a job in. -/
theorem push_steps_submit (threads : Threads ι σ) {thread : Option ι}
    (idle : threads.handing thread = .idle) (job : Job σ) :
    Steps (threads.push thread job) { threads with context := threads.context.submit job } := by
  have restored : Function.update threads.handing thread .idle = threads.handing := by
    rw [← idle, Function.update_eq_self]
  have raise : Step (threads.push thread job) ((threads.push thread job).raise thread) :=
    .raise thread (Function.update_self ..)
  cases before : threads.context.pending with
  | true =>
      have raised : (threads.push thread job).raise thread =
          { threads with context := threads.context.submit job } := by
        simp [Threads.raise, Threads.push, Context.raise, Context.push, Context.submit_eq,
          before, restored]
      rw [← raised]
      exact .single raise
  | false =>
      have raised : ((threads.push thread job).raise thread).handing thread = .raised := by
        simp [Threads.raise, Threads.push, Context.raise, Context.push, before]
      have woken : ((threads.push thread job).raise thread).wake thread =
          { threads with context := threads.context.submit job } := by
        simp [Threads.raise, Threads.push, Threads.wake, Context.raise, Context.push,
          Context.wake, Context.submit_eq, before, restored]
      rw [← woken]
      exact .tail (.single raise) (.wake thread raised)

private theorem submitted_steps {threads : Threads ι σ} (idle : threads.handing none = .idle)
    {jobs taken : List (Job σ)} (running : threads.draining = .running jobs taken) :
    Steps threads
      { threads with
        context := threads.context.submitAll jobs
        draining := .running [] taken } := by
  induction jobs generalizing threads with
  | nil =>
      rw [← running]
      exact .refl
  | cons job rest ih =>
      have handedIn := push_steps_submit { threads with draining := .running rest taken } idle job
      exact .head (.submit idle running) (handedIn.trans (ih idle rfl))

private theorem taken_steps {threads : Threads ι σ} (idle : threads.handing none = .idle)
    {jobs : List (Job σ)} (running : threads.draining = .running [] jobs) :
    Steps threads (threads.ranAll (jobs.foldl Context.perform threads.context)) := by
  induction jobs generalizing threads with
  | nil =>
      rw [ranAll, ← running]
      exact .refl
  | cons job rest ih =>
      have begun : (threads.begin job rest).handing none = .idle := idle
      exact .head (.begin idle running) ((submitted_steps begun rfl).trans (ih idle rfl))

private theorem lower_steps_rounds {fuel : Nat} {threads : Threads ι σ}
    (idle : threads.handing none = .idle)
    (enough : Job.countAll threads.context.queue < fuel) :
    ∃ wakesAtLower, Steps threads.lower
      { threads with
        context := (Context.rounds fuel threads.context).1
        draining := .outside
        wakesAtLower } := by
  -- The fuel covers all jobs that can still come, and each round leaves fewer of them.
  induction fuel generalizing threads with
  | zero => exact absurd enough (Nat.not_lt_zero _)
  | succ fuel ih =>
      have take : Steps threads.lower threads.lower.take := .single (.take rfl)
      rw [Context.rounds_succ]
      by_cases empty : threads.context.queue = []
      · refine ⟨threads.context.wakes, ?_⟩
        simpa [empty, Threads.take, Threads.lower, Context.take, Context.lower,
          Context.takeQueue] using take
      · have running : threads.lower.take.draining = .running [] threads.context.queue := by
          simp [Threads.take, Threads.lower, Context.take, Context.lower, empty]
        have takenIdle : threads.lower.take.handing none = .idle := idle
        have round := taken_steps takenIdle running
        have fewer := Context.countAll_round_lt empty
        have ranIdle : (threads.lower.take.ranAll
            (threads.context.queue.foldl Context.perform threads.lower.take.context)).handing
              none = .idle := idle
        obtain ⟨wakesAtLower, rest⟩ :=
          ih ranIdle (Nat.lt_of_lt_of_le fewer (Nat.le_of_lt_succ enough))
        rw [if_neg empty]
        exact ⟨wakesAtLower, (take.trans (round.tail (.again ranIdle rfl))).trans rest⟩

/-- The steps of the owner, with no other step between them, drain the queue. -/
theorem enter_steps_drain {threads : Threads ι σ} (idle : threads.handing none = .idle)
    (outside : threads.draining = .outside) (free : threads.context.borrowed = false) :
    ∃ wakesAtLower, Steps threads
      { threads with context := threads.context.drain.1, wakesAtLower } := by
  obtain ⟨wakesAtLower, rounds⟩ :=
    lower_steps_rounds idle (Nat.lt_succ_self (Job.countAll threads.context.queue))
  refine ⟨wakesAtLower, .head (.enter idle outside) ?_⟩
  rw [Context.drain, free]
  rw [← outside] at rounds
  exact rounds

/-- Whatever the threads have done in whatever order: when no job is half handed in and
the owner does not drain, jobs in the queue have the flag up, and the waker was called
after the flag was last lowered. -/
theorem waiting_jobs_announced {weight : Nat} (installed : 0 < weight) (state : σ)
    {threads : Threads ι σ} (reached : Steps (initial weight state) threads)
    (settled : ∀ thread, threads.handing thread = .idle)
    (outside : threads.draining = .outside) (waiting : threads.context.queue ≠ []) :
    threads.context.pending = true ∧ threads.wakesAtLower < threads.context.wakes := by
  have watched := (initial_watched weight state).steps installed reached
  have up : threads.context.pending = true := by
    rcases watched.seen waiting with up | lowered | ⟨thread, pushed⟩
    · exact up
    · rw [outside] at lowered
      cases lowered
    · rw [settled thread] at pushed
      cases pushed
  refine ⟨up, ?_⟩
  rcases watched.told up with called | ⟨thread, raised⟩
  · exact called
  · rw [settled thread] at raised
    cases raised

/-- Two jobs are taken before their flag is raised, the waker is called while the queue is
about to be found empty, and a third job comes in after that without any call. -/
def crossed : Threads Bool Nat :=
  let job : Job Nat := .single (· + 1)
  let taken := (((initial 1 0).push (some false) job).lower.push (some true) job).take
  let ran := (taken.begin job [job]).begin job []
  let woken := ((ran.lower.raise (some false)).wake (some false)).take
  ((woken.raise (some true)).push (some false) job).raise (some false)

private theorem crossed_reached : Steps (initial 1 0) crossed := by
  refine .head (.push false (.single (· + 1)) rfl) (.head (.enter rfl rfl) ?_)
  refine .head (.push true (.single (· + 1)) rfl) (.head (.take rfl) ?_)
  refine .head (.begin rfl rfl) (.head (.begin rfl rfl) (.head (.again rfl rfl) ?_))
  refine .head (.raise (some false) rfl) (.head (.wake (some false) rfl) (.head (.take rfl) ?_))
  refine .head (.raise (some true) rfl) (.head (.push false (.single (· + 1)) rfl) ?_)
  exact .single (.raise (some false) rfl)

theorem waiting_jobs_announced_crossed :
    0 < 1 ∧ Steps (initial 1 0) crossed ∧ (∀ thread, crossed.handing thread = .idle) ∧
      crossed.draining = .outside ∧ crossed.context.queue ≠ [] ∧
      crossed.context.pending = true ∧ crossed.wakesAtLower < crossed.context.wakes := by
  have settled : ∀ thread, crossed.handing thread = .idle := by
    rintro (_ | _ | _) <;> rfl
  have waiting : crossed.context.queue ≠ [] := List.cons_ne_nil _ _
  exact ⟨Nat.one_pos, crossed_reached, settled, rfl, waiting,
    waiting_jobs_announced Nat.one_pos 0 crossed_reached settled rfl waiting⟩

end Threads

end TtyFrame.Presentation

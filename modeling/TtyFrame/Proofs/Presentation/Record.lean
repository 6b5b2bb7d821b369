import TtyFrame.Presentation.Program
import TtyFrame.Proofs.Presentation.InTurn

/-! Programs of the owning thread, with a record of what goes on in them. The record tells
when jobs begin and end, and when the waker is called. -/

set_option autoImplicit false

namespace TtyFrame.Presentation

variable {σ : Type}

/-- Who has the state. -/
inductive Use where
  | nobody
  | job
  | closure
deriving DecidableEq

inductive Event (σ : Type) where
  /-- A job was handed in behind the jobs that waited. -/
  | queued (waiting : List (Job σ)) (job : Job σ)
  | woken
  /-- A job begins, which may have waited in the queue before. -/
  | begun (waited : Bool) (job : Job σ)
  | ended (job : Job σ)
  | lent
  | givenBack

namespace Event

def handedIn? : Event σ → Option (Job σ)
  | .queued _ job => some job
  | _ => none

def begun? : Event σ → Option (Job σ)
  | .begun _ job => some job
  | _ => none

def drained? : Event σ → Option (Job σ)
  | .begun true job => some job
  | _ => none

def isWoken : Event σ → Bool
  | .woken => true
  | _ => false

/-- Whether the queue goes from empty to non-empty. -/
def fills : Event σ → Bool
  | .queued [] _ => true
  | _ => false

/-- Who has the state after an event. A job or a closure gets it from nobody else. -/
def use : Use → Event σ → Option Use
  | user, .queued _ _ | user, .woken => some user
  | .nobody, .begun _ _ => some .job
  | .job, .ended _ => some .nobody
  | .nobody, .lent => some .closure
  | .closure, .givenBack => some .nobody
  | _, _ => none

/-- An event with the call of the waker that it asks for. -/
def announce : Event σ → List (Event σ)
  | .queued [] job => [.queued [] job, .woken]
  | event => [event]

end Event

/-- What the owning thread can do while it may hold the state. -/
inductive Call (σ : Type) where
  | run (job : Job σ)
  | submit (job : Job σ)
  | drain

def Call.step : Call σ → Step σ
  | .run job => .run job
  | .submit job => .submit job
  | .drain => .drain

/-- A call of the owning thread, or a closure on the state that makes calls. -/
inductive Turn (σ : Type) where
  | plain (call : Call σ)
  | within (act : σ → σ) (calls : List (Call σ))

def Turn.step : Turn σ → Step σ
  | .plain call => call.step
  | .within act calls => .within act (calls.map Call.step)

namespace Context

def lend (context : Context σ) (act : σ → σ) : Context σ :=
  { context with state := act context.state, borrowed := true }

def giveBack (context : Context σ) : Context σ := { context with borrowed := false }

end Context

/-! The calls with their records. -/

namespace Record

/-- Takes items one after the other and joins their records. -/
def each {α : Type} (step : Context σ → α → Context σ × List (Event σ)) :
    Context σ → List α → Context σ × List (Event σ)
  | context, [] => (context, [])
  | context, item :: rest =>
    let (next, events) := step context item
    let (last, later) := each step next rest
    (last, events ++ later)

def submit (context : Context σ) (job : Job σ) : Context σ × List (Event σ) :=
  let (raised, before) := (context.push job).raise
  if before then (raised, [.queued context.queue job])
  else (raised.wake, [.queued context.queue job, .woken])

def perform (waited : Bool) (context : Context σ) (job : Job σ) :
    Context σ × List (Event σ) :=
  let (last, handedIn) := each submit { context with state := job.act context.state } job.next
  (last, .begun waited job :: handedIn ++ [.ended job])

def run (context : Context σ) (job : Job σ) : Context σ × List (Event σ) :=
  if context.borrowed then submit context job else perform false context job

def rounds : Nat → Context σ → Context σ × List (Event σ)
  | 0, context => (context, [])
  | fuel + 1, context =>
    let (taken, jobs) := context.takeQueue
    if jobs.isEmpty then (taken, [])
    else
      let (ran, events) := each (perform true) taken jobs
      let (last, later) := rounds fuel ran
      (last, events ++ later)

def drain (context : Context σ) : Context σ × List (Event σ) :=
  if context.borrowed then (context, []) else rounds (Job.countAll context.queue + 1) context

def call (context : Context σ) : Call σ → Context σ × List (Event σ)
  | .run job => run context job
  | .submit job => submit context job
  | .drain => drain context

def turn (context : Context σ) : Turn σ → Context σ × List (Event σ)
  | .plain made => call context made
  | .within act calls =>
    if context.borrowed then (context, [])
    else
      let (last, events) := each call (context.lend act) calls
      (last.giveBack, .lent :: events ++ [.givenBack])

/-! A record does not change what is done. -/

theorem each_fst {α : Type} {step : Context σ → α → Context σ × List (Event σ)}
    {plain : Context σ → α → Context σ}
    (same : ∀ context item, (step context item).1 = plain context item)
    (context : Context σ) (items : List α) :
    (each step context items).1 = items.foldl plain context := by
  induction items generalizing context with
  | nil => rfl
  | cons item rest ih => rw [List.foldl_cons, ← same, ← ih]; rfl

theorem submit_fst (context : Context σ) (job : Job σ) :
    (submit context job).1 = context.submit job := by
  cases raised : context.pending <;>
    simp [submit, Context.submit, Context.push, Context.raise, raised]

theorem perform_fst (waited : Bool) (context : Context σ) (job : Job σ) :
    (perform waited context job).1 = context.perform job := each_fst submit_fst _ job.next

theorem run_fst (context : Context σ) (job : Job σ) :
    (run context job).1 = context.run job := by
  unfold run Context.run
  split
  · exact submit_fst context job
  · exact perform_fst false context job

theorem rounds_succ (fuel : Nat) (context : Context σ) :
    rounds (fuel + 1) context =
      if context.queue = [] then (context.takeQueue.1, [])
      else
        ((rounds fuel (each (perform true) context.takeQueue.1 context.queue).1).1,
          (each (perform true) context.takeQueue.1 context.queue).2 ++
            (rounds fuel (each (perform true) context.takeQueue.1 context.queue).1).2) := by
  simp only [← List.isEmpty_iff]
  rfl

theorem rounds_fst (fuel : Nat) (context : Context σ) :
    (rounds fuel context).1 = (Context.rounds fuel context).1 := by
  induction fuel generalizing context with
  | zero => rfl
  | succ fuel ih =>
    rw [rounds_succ, Context.rounds_succ]
    split
    · rfl
    · rw [← each_fst (perform_fst true)]
      exact ih _

theorem drain_fst (context : Context σ) : (drain context).1 = context.drain.1 := by
  unfold drain Context.drain
  split
  · rfl
  · exact rounds_fst _ context

theorem call_fst (context : Context σ) (made : Call σ) :
    (call context made).1 = (Step.perform true context made.step).1 := by
  cases made with
  | run job => exact (run_fst context job).trans (by rw [Call.step, Step.perform]; rfl)
  | submit job => exact (submit_fst context job).trans (by rw [Call.step, Step.perform])
  | drain => exact (drain_fst context).trans (by rw [Call.step, Step.perform]; rfl)

theorem performAll_fst {α : Type} (toStep : α → Step σ) (context : Context σ)
    (items : List α) :
    (Step.performAll true context (items.map toStep)).1 =
      items.foldl (fun context item => (Step.perform true context (toStep item)).1)
        context := by
  induction items generalizing context with
  | nil => rw [List.map_nil, Step.performAll]; rfl
  | cons item rest ih => rw [List.map_cons, Step.performAll, List.foldl_cons, ← ih]

theorem turn_fst (context : Context σ) (taken : Turn σ) :
    (turn context taken).1 = (Step.perform true context taken.step).1 := by
  cases taken with
  | plain made => exact call_fst context made
  | within act calls =>
    rw [Turn.step, turn]
    cases borrowed : context.borrowed with
    | true => simp [Step.perform, borrowed]
    | false =>
      simp only [Step.perform, borrowed]
      have inside := (each_fst call_fst (context.lend act) calls).trans
        (performAll_fst Call.step (context.lend act) calls).symm
      exact congrArg Context.giveBack inside

/-! Which jobs a record tells of. -/

private theorem each_told {α : Type} {step : Context σ → α → Context σ × List (Event σ)}
    {pick : Event σ → Option (Job σ)} {jobs : α → List (Job σ)}
    (told : ∀ context item, (step context item).2.filterMap pick = jobs item)
    (context : Context σ) (items : List α) :
    (each step context items).2.filterMap pick = items.flatMap jobs := by
  induction items generalizing context with
  | nil => rfl
  | cons item rest ih =>
    rw [List.flatMap_cons, ← told context item, ← ih (step context item).1,
      ← List.filterMap_append]
    rfl

private theorem toList_told (pick : Event σ → Option (Job σ)) (event : Event σ) :
    [event].filterMap pick = (pick event).toList := by
  cases picked : pick event <;> simp [picked]

private theorem submit_told {pick : Event σ → Option (Job σ)} (silent : pick .woken = none)
    (context : Context σ) (job : Job σ) :
    (submit context job).2.filterMap pick = (pick (.queued context.queue job)).toList := by
  rw [← toList_told]
  cases raised : context.pending with
  | true => simp [submit, Context.push, Context.raise, raised]
  | false =>
    have both : (submit context job).2 = [.queued context.queue job] ++ [.woken] := by
      simp [submit, Context.push, Context.raise, raised]
    have last : [Event.woken].filterMap pick = [] := List.filterMap_cons_none silent
    rw [both, List.filterMap_append, last, List.append_nil]

theorem submit_handedIn (context : Context σ) (job : Job σ) :
    (submit context job).2.filterMap Event.handedIn? = [job] := submit_told rfl context job

theorem submit_begun (context : Context σ) (job : Job σ) :
    (submit context job).2.filterMap Event.begun? = [] := submit_told rfl context job

theorem submit_drained (context : Context σ) (job : Job σ) :
    (submit context job).2.filterMap Event.drained? = [] := submit_told rfl context job

private theorem perform_told {pick : Event σ → Option (Job σ)} {jobs : Job σ → List (Job σ)}
    (told : ∀ context job, (submit context job).2.filterMap pick = jobs job)
    {job : Job σ} (silent : pick (.ended job) = none) (waited : Bool) (context : Context σ) :
    (perform waited context job).2.filterMap pick =
      (pick (.begun waited job)).toList ++ job.next.flatMap jobs := by
  have handedIn := each_told told { context with state := job.act context.state } job.next
  have first : (perform waited context job).2 =
      [.begun waited job] ++
        (each submit { context with state := job.act context.state } job.next).2 ++
          [.ended job] := rfl
  have last : [Event.ended job].filterMap pick = [] := List.filterMap_cons_none silent
  rw [first, List.filterMap_append, List.filterMap_append, handedIn, toList_told, last,
    List.append_nil]

theorem perform_handedIn (waited : Bool) (context : Context σ) (job : Job σ) :
    (perform waited context job).2.filterMap Event.handedIn? = job.next := by
  rw [perform_told submit_handedIn rfl, List.flatMap_singleton']
  rfl

theorem perform_begun (waited : Bool) (context : Context σ) (job : Job σ) :
    (perform waited context job).2.filterMap Event.begun? = [job] := by
  rw [perform_told submit_begun rfl, List.flatMap_eq_nil_iff.mpr fun _ _ => rfl]
  rfl

theorem perform_drained (waited : Bool) (context : Context σ) (job : Job σ) :
    (perform waited context job).2.filterMap Event.drained? = if waited then [job] else [] := by
  rw [perform_told submit_drained rfl, List.flatMap_eq_nil_iff.mpr fun _ _ => rfl]
  cases waited <;> rfl

/-- The rounds run the jobs of a plain queue, whatever tells of them. -/
theorem rounds_told {pick : Event σ → Option (Job σ)}
    (told : ∀ context job, (perform true context job).2.filterMap pick = [job])
    {fuel : Nat} {context : Context σ} (enough : Job.countAll context.queue < fuel) :
    (rounds fuel context).2.filterMap pick = Job.inTurn context.queue := by
  induction fuel, context, enough using Context.rounds_induct with
  | idle fuel context _ empty =>
    rw [rounds_succ, if_pos empty, empty, Job.inTurn]
    rfl
  | round fuel context _ _ waiting ih =>
    rw [rounds_succ, if_neg waiting, List.filterMap_append, each_told told,
      each_fst (perform_fst true), ih, Context.round_queue, List.flatMap_singleton',
      ← Job.inTurn_levels]

theorem rounds_handedIn {fuel : Nat} {context : Context σ}
    (enough : Job.countAll context.queue < fuel) :
    context.queue ++ (rounds fuel context).2.filterMap Event.handedIn? =
      Job.inTurn context.queue := by
  induction fuel, context, enough using Context.rounds_induct with
  | idle fuel context _ empty =>
    rw [rounds_succ, if_pos empty, empty, Job.inTurn]
    rfl
  | round fuel context _ _ waiting ih =>
    rw [rounds_succ, if_neg waiting, List.filterMap_append, each_told (perform_handedIn true),
      each_fst (perform_fst true), ← Context.round_queue, ih, Context.round_queue,
      ← Job.inTurn_levels]

theorem drain_told {pick : Event σ → Option (Job σ)}
    (told : ∀ context job, (perform true context job).2.filterMap pick = [job])
    {context : Context σ} (free : context.borrowed = false) :
    (drain context).2.filterMap pick = Job.inTurn context.queue := by
  rw [drain, if_neg (by rw [free]; exact Bool.false_ne_true)]
  exact rounds_told told (Nat.lt_succ_self _)

end Record

end TtyFrame.Presentation

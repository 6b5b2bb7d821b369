import TtyFrame.Proofs.Presentation.Heard

/-! Whole programs of the owning thread. Wherever one stands between two of its steps, what
was handed in has run once and in turn, or waits for its turn. -/

set_option autoImplicit false

namespace TtyFrame.Presentation

variable {σ : Type}

/-- A place between two steps of a program that has begun with a fresh state. -/
structure Boundary (σ : Type) where
  waker : Option Nat
  state : σ
  /-- What was done before. -/
  done : List (Turn σ)
  /-- The closure that has the state here, and the calls that it has made. -/
  inside : Option ((σ → σ) × List (Call σ)) := none

namespace Boundary

def fresh (here : Boundary σ) : Context σ := { state := here.state, waker := here.waker }

/-- Where the turns of the program have led. -/
def between (here : Boundary σ) : Context σ :=
  (Step.performAll true here.fresh (here.done.map Turn.step)).1

def context (here : Boundary σ) : Context σ :=
  match here.inside with
  | none => here.between
  | some (act, calls) => (Step.performAll true (here.between.lend act) (calls.map Call.step)).1

def user (here : Boundary σ) : Use :=
  if here.inside.isSome then .closure else .nobody

/-- What was recorded on the way. -/
def record (here : Boundary σ) : Context σ × List (Event σ) :=
  let (between, events) := Record.each Record.turn here.fresh here.done
  match here.inside with
  | none => (between, events)
  | some (act, calls) =>
    let (last, later) := Record.each Record.call (between.lend act) calls
    (last, events ++ .lent :: later)

/-- The scheduling of jobs at a boundary, and in all that led to it. -/
structure Scheduled (here : Boundary σ) : Prop where
  recorded : here.record.1 = here.context
  /-- The jobs that were handed in have run from the queue in this order, or still wait. -/
  served : here.record.2.filterMap Event.handedIn? =
    here.record.2.filterMap Event.drained? ++ here.context.queue
  pending : here.context.pending = true ↔ here.context.queue ≠ []
  runsNow : here.inside = none → ∀ job,
    (here.context.run job).state = job.act here.context.state ∧
      (here.context.run job).queue = here.context.queue ++ job.next ∧
      (Record.run here.context job).2.filterMap Event.begun? = [job]
  waits : here.inside ≠ none → ∀ job,
    (here.context.run job).state = here.context.state ∧
      (here.context.run job).queue = here.context.queue ++ [job] ∧
      (Record.run here.context job).2.filterMap Event.begun? = []
  handsIn : ∀ job,
    (here.context.submit job).state = here.context.state ∧
      (here.context.submit job).queue = here.context.queue ++ [job]
  drains : here.inside = none →
    (Record.drain here.context).2.filterMap Event.begun? = Job.inTurn here.context.queue ∧
      (Job.inTurn here.context.queue).Perm (Job.allOf here.context.queue) ∧
      here.context.drain.1.state = (Job.inTurn here.context.queue).foldl
        (fun state job => job.act state) here.context.state ∧
      here.context.drain.2 = (Job.inTurn here.context.queue).length ∧
      here.context.drain.1.queue = [] ∧ here.context.drain.1.pending = false
  refuses : here.inside ≠ none → here.context.drain = (here.context, 0)
  exclusive : here.record.2.foldlM Event.use .nobody = some here.user
  announced : here.record.2 = (here.record.2.filter (!·.isWoken)).flatMap Event.announce
  wakes : here.context.wakes = here.waker.getD 0 * here.record.2.countP Event.fills

variable (here : Boundary σ)

private theorem between_eq : (Record.each Record.turn here.fresh here.done).1 = here.between :=
  (Record.each_fst Record.turn_fst here.fresh here.done).trans
    (Record.performAll_fst Turn.step here.fresh here.done).symm

private theorem inside_eq (context : Context σ) (calls : List (Call σ)) :
    (Record.each Record.call context calls).1 =
      (Step.performAll true context (calls.map Call.step)).1 :=
  (Record.each_fst Record.call_fst context calls).trans
    (Record.performAll_fst Call.step context calls).symm

theorem record_fst : here.record.1 = here.context := by
  have between := here.between_eq
  unfold record context
  cases here.inside with
  | none => exact between
  | some loan =>
    rw [← between]
    exact inside_eq _ loan.2

private theorem between_heard :
    Heard .nobody here.fresh (Record.each Record.turn here.fresh here.done).2 .nobody
      here.between := by
  have sound : Sound .nobody here.fresh := ⟨by simp [fresh], rfl⟩
  rw [← between_eq]
  exact Record.each_heard (fun _ turn sound => Record.turn_heard sound turn) sound here.done

/-- The boundary behind a closure is the last one in it, with the state given back. -/
theorem context_closed (act : σ → σ) (calls : List (Call σ)) :
    { here with done := here.done ++ [Turn.within act calls], inside := none }.context =
      { here with inside := some (act, calls) }.context.giveBack := by
  have free : here.between.borrowed = false := here.between_heard.sound.borrowed
  have last : { here with done := here.done ++ [Turn.within act calls] }.between =
      (Step.perform true here.between (Turn.within act calls).step).1 := by
    unfold between
    rw [Record.performAll_fst, Record.performAll_fst, List.foldl_append]
    rfl
  refine last.trans ?_
  simp only [Turn.step, Step.perform, free]
  rfl

theorem record_heard : Heard .nobody here.fresh here.record.2 here.user here.record.1 := by
  have outer := here.between_heard
  rw [← between_eq] at outer
  unfold record user
  cases here.inside with
  | none => exact outer
  | some loan =>
    obtain ⟨act, calls⟩ := loan
    have opens := Record.lend_heard act outer.sound
    exact outer.trans (opens.trans (Record.calls_heard opens.sound calls))

theorem record_served : Served here.fresh here.record.2 here.record.1 := by
  have outer := Record.each_served Record.turn_served here.fresh here.done
  unfold record
  cases here.inside with
  | none => exact outer
  | some loan =>
    obtain ⟨act, calls⟩ := loan
    have inner := Record.each_served Record.call_served
      ((Record.each Record.turn here.fresh here.done).1.lend act) calls
    exact outer.trans inner

/-- Wherever a program stands, what was handed in has run once and in turn or waits, and
runs in turn with the next drain. -/
theorem jobs_run_once_in_turn (here : Boundary σ) : here.Scheduled := by
  have heard := here.record_heard
  have served := here.record_served
  rw [here.record_fst] at heard served
  have borrowed := heard.sound.borrowed
  have free : here.inside = none → here.context.borrowed = false := by
    intro outside
    rw [borrowed, user, outside]
    rfl
  have lent : here.inside ≠ none → here.context.borrowed = true := by
    intro inside
    rw [borrowed, user, if_pos (Option.isSome_iff_ne_none.mpr inside)]
    rfl
  refine ⟨here.record_fst, served, heard.sound.pending, fun outside job => ?_,
    fun inside job => ?_, fun job => ?_, fun outside => ?_, fun inside => ?_, heard.exclusive,
    heard.announced, heard.wakes.trans (Nat.zero_add _)⟩
  · rw [Context.run, Record.run, free outside]
    exact ⟨Context.perform_state _ job, Context.perform_queue _ job,
      Record.perform_begun false _ job⟩
  · rw [Context.run, Record.run, lent inside, if_pos rfl, if_pos rfl, Context.submit_eq]
    exact ⟨rfl, rfl, Record.submit_begun _ job⟩
  · rw [Context.submit_eq]
    exact ⟨rfl, rfl⟩
  · obtain ⟨state, ran⟩ := Context.drain_in_turn (free outside)
    obtain ⟨empty, down⟩ := Context.drain_settles (free outside)
    exact ⟨Record.drain_told (Record.perform_begun true) (free outside), Job.inTurn_perm _, state,
      ran, empty, down⟩
  · rw [Context.drain, lent inside, if_pos rfl]

end Boundary

end TtyFrame.Presentation

import TtyFrame.Proofs.Presentation.Record

/-! What the records of calls have in common, however the calls follow each other. -/

set_option autoImplicit false

namespace TtyFrame.Presentation

variable {σ : Type}

/-- A context between two events. -/
structure Sound (user : Use) (context : Context σ) : Prop where
  pending : context.pending = true ↔ context.queue ≠ []
  borrowed : context.borrowed = decide (user = .closure)

/-- What holds of any stretch of a record. One job or closure has the state at a time, the
waker is called after the jobs that found an empty queue and at no other place, and each of
its calls is counted. -/
structure Heard (user : Use) (before : Context σ) (events : List (Event σ)) (next : Use)
    (after : Context σ) : Prop where
  sound : Sound next after
  waker : after.waker = before.waker
  exclusive : events.foldlM Event.use user = some next
  announced : events = (events.filter (!·.isWoken)).flatMap Event.announce
  wakes : after.wakes = before.wakes + before.waker.getD 0 * events.countP Event.fills

namespace Heard

variable {user next : Use} {before after : Context σ}

theorem refl (sound : Sound user before) : Heard user before [] user before where
  sound := sound
  waker := rfl
  exclusive := rfl
  announced := rfl
  wakes := rfl

theorem trans {between : Use} {middle : Context σ} {events later : List (Event σ)}
    (left : Heard user before events between middle)
    (right : Heard between middle later next after) :
    Heard user before (events ++ later) next after where
  sound := right.sound
  waker := right.waker.trans left.waker
  exclusive := by rw [List.foldlM_append, left.exclusive]; exact right.exclusive
  announced := by
    rw [List.filter_append, List.flatMap_append, ← left.announced, ← right.announced]
  wakes := by
    rw [right.wakes, left.wakes, left.waker, List.countP_append, Nat.mul_add, Nat.add_assoc]

/-- An event that passes the state on is about no job in the queue. -/
theorem passed {event : Event σ} (sound : Sound next after)
    (passes : event.use user = some next) (other : user ≠ next)
    (waker : after.waker = before.waker) (wakes : after.wakes = before.wakes) :
    Heard user before [event] next after := by
  have exclusive : [event].foldlM Event.use user = some next := by
    rw [List.foldlM_cons, passes]
    rfl
  cases event with
  | queued => exact absurd (Option.some.inj passes) other
  | woken => exact absurd (Option.some.inj passes) other
  | _ => exact ⟨sound, waker, exclusive, rfl, wakes⟩

end Heard

namespace Record

variable {user : Use} {context : Context σ}

theorem each_heard {α : Type} {step : Context σ → α → Context σ × List (Event σ)}
    (heard : ∀ context item, Sound user context →
      Heard user context (step context item).2 user (step context item).1)
    (sound : Sound user context) (items : List α) :
    Heard user context (each step context items).2 user (each step context items).1 := by
  induction items generalizing context with
  | nil => exact .refl sound
  | cons item rest ih =>
    have first := heard context item sound
    exact first.trans (ih first.sound)

theorem submit_heard (sound : Sound user context) (job : Job σ) :
    Heard user context (submit context job).2 user (submit context job).1 := by
  rw [submit_fst, Context.submit_eq]
  -- The flag tells whether the queue is empty, so the waker is called for the first job alone.
  cases waiting : context.queue with
  | nil =>
    have down : context.pending = false := by simpa [waiting] using sound.pending
    have told : (submit context job).2 = [.queued [] job, .woken] := by
      simp [submit, Context.push, Context.raise, down, waiting]
    have fill : [Event.queued [] job, .woken].countP Event.fills = 1 := rfl
    rw [told]
    refine ⟨⟨by simp, sound.borrowed⟩, rfl, rfl, rfl, ?_⟩
    rw [down, fill, Nat.mul_one]
    rfl
  | cons first rest =>
    have up : context.pending = true := sound.pending.mpr (by simp [waiting])
    have told : (submit context job).2 = [.queued (first :: rest) job] := by
      simp [submit, Context.push, Context.raise, up, waiting]
    have unfilled : [Event.queued (first :: rest) job].countP Event.fills = 0 := rfl
    rw [told]
    refine ⟨⟨by simp, sound.borrowed⟩, rfl, rfl, rfl, ?_⟩
    rw [up, unfilled, Nat.mul_zero]
    rfl

theorem perform_heard (waited : Bool) (sound : Sound .nobody context) (job : Job σ) :
    Heard .nobody context (perform waited context job).2 .nobody
      (perform waited context job).1 := by
  have begins : Heard .nobody context [.begun waited job] .job
      { context with state := job.act context.state } :=
    .passed ⟨sound.pending, sound.borrowed⟩ rfl (by decide) rfl rfl
  have handedIn := each_heard (fun _ job sound => submit_heard sound job) begins.sound job.next
  have ends : Heard .job (perform waited context job).1 [.ended job] .nobody
      (perform waited context job).1 :=
    .passed ⟨handedIn.sound.pending, handedIn.sound.borrowed⟩ rfl (by decide) rfl rfl
  exact (begins.trans handedIn).trans ends

theorem rounds_heard (fuel : Nat) (sound : Sound .nobody context) :
    Heard .nobody context (rounds fuel context).2 .nobody (rounds fuel context).1 := by
  induction fuel generalizing context with
  | zero => exact .refl sound
  | succ fuel ih =>
    have taken : Heard .nobody context [] .nobody context.takeQueue.1 :=
      ⟨⟨by simp [Context.takeQueue, Context.take, Context.lower], sound.borrowed⟩, rfl, rfl, rfl,
        rfl⟩
    rw [rounds_succ]
    split
    · exact taken
    · have ran := each_heard (fun _ job sound => perform_heard true sound job) taken.sound
        context.queue
      exact taken.trans (ran.trans (ih ran.sound))

theorem call_heard (notJob : user ≠ .job) (sound : Sound user context) (made : Call σ) :
    Heard user context (call context made).2 user (call context made).1 := by
  cases user with
  | job => exact absurd rfl notJob
  | closure =>
    have lent : context.borrowed = true := sound.borrowed
    cases made with
    | run job => rw [call, run, if_pos lent]; exact submit_heard sound job
    | submit job => exact submit_heard sound job
    | drain => rw [call, drain, if_pos lent]; exact .refl sound
  | nobody =>
    have free : ¬ context.borrowed = true := by simp [sound.borrowed]
    cases made with
    | run job => rw [call, run, if_neg free]; exact perform_heard false sound job
    | submit job => exact submit_heard sound job
    | drain => rw [call, drain, if_neg free]; exact rounds_heard _ sound

theorem lend_heard (act : σ → σ) (sound : Sound .nobody context) :
    Heard .nobody context [.lent] .closure (context.lend act) :=
  .passed ⟨sound.pending, rfl⟩ rfl (by decide) rfl rfl

theorem calls_heard (sound : Sound .closure context) (calls : List (Call σ)) :
    Heard .closure context (each call context calls).2 .closure (each call context calls).1 :=
  each_heard (fun _ made sound => call_heard (by decide) sound made) sound calls

theorem turn_heard (sound : Sound .nobody context) (taken : Turn σ) :
    Heard .nobody context (turn context taken).2 .nobody (turn context taken).1 := by
  cases taken with
  | plain made => exact call_heard (by decide) sound made
  | within act calls =>
    have free : ¬ context.borrowed = true := by simp [sound.borrowed]
    have opens := lend_heard act sound
    have inside := calls_heard opens.sound calls
    have closes : Heard .closure (each call (context.lend act) calls).1 [.givenBack] .nobody
        (each call (context.lend act) calls).1.giveBack :=
      .passed ⟨inside.sound.pending, rfl⟩ rfl (by decide) rfl rfl
    rw [turn, if_neg free]
    exact (opens.trans inside).trans closes

end Record

/-- A stretch of a record after which the queue has moved on. The jobs that waited and those
that were handed in have run in this order, or still wait. -/
def Served (before : Context σ) (events : List (Event σ)) (after : Context σ) : Prop :=
  before.queue ++ events.filterMap Event.handedIn? =
    events.filterMap Event.drained? ++ after.queue

namespace Served

variable {first middle last : Context σ} {events later : List (Event σ)}

theorem refl (context : Context σ) : Served context [] context := List.append_nil _

theorem trans (left : Served first events middle) (right : Served middle later last) :
    Served first (events ++ later) last := by
  unfold Served at *
  rw [List.filterMap_append, List.filterMap_append, ← List.append_assoc, left,
    List.append_assoc, right, List.append_assoc]

end Served

namespace Record

theorem each_served {α : Type} {step : Context σ → α → Context σ × List (Event σ)}
    (served : ∀ context item, Served context (step context item).2 (step context item).1)
    (context : Context σ) (items : List α) :
    Served context (each step context items).2 (each step context items).1 := by
  induction items generalizing context with
  | nil => exact .refl context
  | cons item rest ih => exact (served context item).trans (ih (step context item).1)

theorem submit_served (context : Context σ) (job : Job σ) :
    Served context (submit context job).2 (submit context job).1 := by
  rw [Served, submit_handedIn, submit_drained, submit_fst, Context.submit_eq]
  rfl

theorem run_served (context : Context σ) (job : Job σ) :
    Served context (run context job).2 (run context job).1 := by
  unfold run
  split
  · exact submit_served context job
  · rw [Served, perform_handedIn, perform_drained, perform_fst, Context.perform_queue]
    rfl

theorem drain_served (context : Context σ) :
    Served context (drain context).2 (drain context).1 := by
  unfold drain
  split
  · exact .refl context
  · have enough := Nat.lt_succ_self (Job.countAll context.queue)
    rw [Served, rounds_handedIn enough, rounds_told (perform_drained true) enough, rounds_fst,
      (Context.rounds_settles enough).1, List.append_nil]

theorem call_served (context : Context σ) (made : Call σ) :
    Served context (call context made).2 (call context made).1 := by
  cases made with
  | run job => exact run_served context job
  | submit job => exact submit_served context job
  | drain => exact drain_served context

theorem turn_served (context : Context σ) (taken : Turn σ) :
    Served context (turn context taken).2 (turn context taken).1 := by
  cases taken with
  | plain made => exact call_served context made
  | within act calls =>
    by_cases borrowed : context.borrowed = true
    · rw [turn, if_pos borrowed]
      exact .refl context
    · rw [turn, if_neg borrowed]
      have opens : Served context [.lent] (context.lend act) := List.append_nil _
      have inside := each_served call_served (context.lend act) calls
      have closes : Served (each call (context.lend act) calls).1 [.givenBack]
          (each call (context.lend act) calls).1.giveBack := List.append_nil _
      exact (opens.trans inside).trans closes

end Record

end TtyFrame.Presentation

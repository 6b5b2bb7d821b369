import TtyFrame.Proofs.Session.Cases
import TtyFrame.Proofs.Session.Relay

/-! A session with the threads of all its runs. A stop waits for nobody, so the threads of
earlier runs may still be there when a run is started, and all runs share the screen, the
connector and the flag that reports the end of the output. What the session's worker does
in a round is what the steps of the newest run come to when nobody else comes between. -/

set_option autoImplicit false

namespace TtyFrame

namespace Progress

variable {ε : Type} [Engine ε]

/-- What came out of earlier progress stands before what has come out of this one. -/
def after (earlier progress : Progress ε) : Progress ε :=
  { progress with
    batches := earlier.batches ++ progress.batches
    replies := earlier.replies ++ progress.replies
    announced := earlier.announced ++ progress.announced }

section

variable (earlier progress : Progress ε)

theorem after_apply (batch : List UInt8) :
    (earlier.after progress).apply batch = earlier.after (progress.apply batch) := by
  simp [after, apply]

theorem after_announce : (earlier.after progress).announce = earlier.after progress.announce := by
  simp [after, announce]

theorem after_receive (received : Receipt) :
    (earlier.after progress).receive received = earlier.after (progress.receive received) := by
  cases received with
  | pieces pieces => exact after_apply earlier progress pieces.flatten
  | timeout | ended => rfl

theorem after_finish (late : List (List UInt8)) :
    (earlier.after progress).finish late = earlier.after (progress.finish late) := by
  unfold finish
  split
  · rw [after_announce]
    rfl
  · rw [after_apply, after_announce]
    rfl

/-- A round does not look at what has come out before. -/
theorem after_round (found : Round) :
    (earlier.after progress).round found = earlier.after (progress.round found) := by
  simp only [round, show (earlier.after progress).worker = progress.worker from rfl,
    after_receive, after_announce, ← apply_ite earlier.after, after_finish]

end

end Progress

namespace Relay

variable {ε : Type} [Engine ε]

/-- A worker that finds its channel cut off has a reader that is gone. -/
def Wired (relay : Relay ε) : Prop := relay.turn = .cut → relay.reading = .gone

section

variable {exited flag : Bool} {relay next : Relay ε}

theorem Step.dismissed (step : Step (exited, relay) (flag, next)) :
    next.dismissed = relay.dismissed := by
  cases step <;> rfl

theorem Step.wired (step : Step (exited, relay) (flag, next)) (wired : relay.Wired) :
    next.Wired := by
  cases step with
  | send | letGo => simp_all [Wired]
  | _ => simp_all [Wired, Relay.apply, Relay.finish]

theorem Step.replies (step : Step (exited, relay) (flag, next)) :
    relay.progress.replies <+: next.progress.replies := by
  cases step with
  | apply => exact List.prefix_append _ _
  | @finish _ _ taken =>
      change _ <+: (relay.progress.finish taken).replies
      unfold Progress.finish
      split
      · exact List.prefix_rfl
      · exact List.prefix_append _ _
  | _ => exact List.prefix_rfl

theorem Steps.replies (steps : Steps (exited, relay) (flag, next)) :
    relay.progress.replies <+: next.progress.replies := by
  generalize last : (flag, next) = after at steps
  induction steps generalizing flag next with
  | refl =>
      cases last
      exact List.prefix_rfl
  | tail _ step ih =>
      cases last
      exact (ih rfl).trans step.replies

end

end Relay

/-- A session with all its runs. -/
structure Lineage (ε κ τ : Type) [Engine ε] where
  session : Session ε κ τ
  /-- The runs so far, oldest first. -/
  runs : List (Relay ε) := []

namespace Lineage

variable {ε κ τ : Type} [Engine ε]

def initial (config : Config) : Lineage ε κ τ := { session := .ofConfig config }

variable [Connector κ]

/-- A connector that is attached begins a run. The pieces are what its reader will read. -/
def start (lineage : Lineage ε κ τ) (connector : κ) (pieces : List (List UInt8)) : Lineage ε κ τ :=
  let session := (lineage.session.start connector).1
  let attached := lineage.session.worker.isNone && session.worker.isSome
  { session
    runs := if attached then lineage.runs ++ [.initial session.screen pieces] else lineage.runs }

/-- The worker that the session lets go of is asked to leave. Nobody waits for it. -/
def stop (lineage : Lineage ε κ τ) : Lineage ε κ τ :=
  { session := lineage.session.stop.1
    runs := lineage.runs.modify (lineage.runs.length - 1) fun run =>
      { run with dismissed := run.dismissed || lineage.session.worker.isSome } }

/-- A thread of a run has made a step. The flag, the screen and the connector are those of
the session, and the worker is if the run is the newest. -/
def take (lineage : Lineage ε κ τ) (index : Nat) (run : Relay ε) (exited : Bool) (next : Relay ε) :
    Lineage ε κ τ :=
  let session :=
    { lineage.session with
      screen := next.progress.screen
      worker :=
        if index + 1 = lineage.runs.length then
          lineage.session.worker.map fun _ => next.progress.worker
        else lineage.session.worker
      exited }
  { session := session.reply (next.progress.replies.drop run.progress.replies.length)
    runs := lineage.runs.set index next }

/-- One call, or one step of a thread of any run. -/
inductive Step : Lineage ε κ τ → Lineage ε κ τ → Prop where
  | start {lineage} (connector : κ) (pieces : List (List UInt8)) :
      Step lineage (lineage.start connector pieces)
  | stop {lineage} : Step lineage lineage.stop
  | thread {lineage} (index : Nat) {run next : Relay ε} {exited : Bool}
      (present : lineage.runs[index]? = some run)
      (step : Relay.Step (lineage.session.exited, run.withScreen lineage.session.screen)
        (exited, next)) :
      Step lineage (lineage.take index run exited next)

/-- Any number of calls and steps, in any order. -/
abbrev Steps : Lineage ε κ τ → Lineage ε κ τ → Prop := Relation.ReflTransGen Step

theorem start_running {lineage : Lineage ε κ τ} (running : lineage.session.worker ≠ none)
    (connector : κ) (pieces : List (List UInt8)) : lineage.start connector pieces = lineage := by
  have some : lineage.session.worker.isSome := Option.isSome_iff_ne_none.mpr running
  have ignored : lineage.session.start connector = (lineage.session, .ok ()) := by
    rw [Session.start, if_pos some]
  simp [start, ignored, running]

theorem start_idle {lineage : Lineage ε κ τ} (idle : lineage.session.worker = none)
    {connector : κ} (accepted : (lineage.session.start connector).2 = .ok ())
    (pieces : List (List UInt8)) :
    ∃ attached, lineage.start connector pieces =
      { session :=
          { lineage.session with connector := some attached, worker := some {}, exited := false }
        runs := lineage.runs ++ [.initial lineage.session.screen pieces] } := by
  obtain ⟨attached, started⟩ := Session.start_ok idle accepted
  exact ⟨attached, by simp [start, started, idle]⟩

theorem start_cases (lineage : Lineage ε κ τ) (connector : κ) (pieces : List (List UInt8)) :
    lineage.start connector pieces = lineage ∨
      (lineage.session.worker = none ∧ (lineage.session.start connector).2 = .ok () ∧
        ∃ attached, lineage.start connector pieces =
          { session :=
              { lineage.session with connector := some attached, worker := some {}, exited := false }
            runs := lineage.runs ++ [.initial lineage.session.screen pieces] }) := by
  obtain ⟨outcome, ignored⟩ | ⟨_, attached, idle, _, _, started⟩ :=
    lineage.session.start_cases connector
  · refine .inl ?_
    cases running : lineage.session.worker <;> simp [start, ignored, running]
  · exact .inr ⟨idle, by rw [started], attached, by simp [start, started, idle]⟩

theorem stop_run (lineage : Lineage ε κ τ) (index : Nat) :
    lineage.stop.runs[index]? = (lineage.runs[index]?).map fun run =>
      if index + 1 = lineage.runs.length then
        { run with dismissed := run.dismissed || lineage.session.worker.isSome }
      else run := by
  rw [stop, List.getElem?_modify]
  cases present : lineage.runs[index]? with
  | none => rfl
  | some run =>
      obtain ⟨within, -⟩ := List.getElem?_eq_some_iff.mp present
      have last : lineage.runs.length - 1 = index ↔ index + 1 = lineage.runs.length := by omega
      simp only [last]
      split <;> rfl

private theorem take_cases (lineage : Lineage ε κ τ) (index : Nat) (run : Relay ε) (exited : Bool)
    (next : Relay ε) :
    ∃ connector, (lineage.take index run exited next).session =
      { lineage.session with
        screen := next.progress.screen
        worker :=
          if index + 1 = lineage.runs.length then
            lineage.session.worker.map fun _ => next.progress.worker
          else lineage.session.worker
        exited, connector } :=
  Session.reply_cases _ _

section

variable (lineage : Lineage ε κ τ) (index : Nat) (run : Relay ε) (exited : Bool) (next : Relay ε)

@[simp]
theorem take_runs : (lineage.take index run exited next).runs = lineage.runs.set index next := rfl

@[simp]
theorem take_exited : (lineage.take index run exited next).session.exited = exited := by
  obtain ⟨connector, taken⟩ := lineage.take_cases index run exited next
  rw [taken]

@[simp]
theorem take_screen :
    (lineage.take index run exited next).session.screen = next.progress.screen := by
  obtain ⟨connector, taken⟩ := lineage.take_cases index run exited next
  rw [taken]

private theorem take_worker : (lineage.take index run exited next).session.worker =
    if index + 1 = lineage.runs.length then
      lineage.session.worker.map fun _ => next.progress.worker
    else lineage.session.worker := by
  obtain ⟨connector, taken⟩ := lineage.take_cases index run exited next
  rw [taken]

private theorem take_idle : (lineage.take index run exited next).session.worker = none ↔
    lineage.session.worker = none := by
  rw [take_worker]
  split <;> simp

end

theorem take_run {lineage : Lineage ε κ τ} {index : Nat} {run : Relay ε}
    (present : lineage.runs[index]? = some run) (exited : Bool) (next : Relay ε) (place : Nat) :
    (lineage.take index run exited next).runs[place]? =
      if index = place then some next else lineage.runs[place]? := by
  have within : index < lineage.runs.length := (List.getElem?_eq_some_iff.mp present).1
  rw [take_runs, List.getElem?_set, if_pos within]

/-- The runs that the session has let go of are asked to leave, and these are all but the
newest. If it holds a worker, that is the worker of the newest. -/
structure Sound (lineage : Lineage ε κ τ) : Prop where
  wired : ∀ run ∈ lineage.runs, run.Wired
  retired : ∀ index run, lineage.runs[index]? = some run →
    index + 1 < lineage.runs.length ∨ lineage.session.worker = none → run.dismissed = true
  held : ∀ index run, lineage.runs[index]? = some run → index + 1 = lineage.runs.length →
    ∀ worker ∈ lineage.session.worker, worker = run.progress.worker

omit [Connector κ] in
theorem initial_sound (config : Config) : (initial config : Lineage ε κ τ).Sound where
  wired run member := by simp [initial] at member
  retired index run present := by simp [initial] at present
  held index run present := by simp [initial] at present

namespace Sound

variable {lineage : Lineage ε κ τ}

theorem start (sound : lineage.Sound) (connector : κ) (pieces : List (List UInt8)) :
    (lineage.start connector pieces).Sound := by
  obtain ignored | ⟨idle, _, attached, started⟩ := lineage.start_cases connector pieces
  · rwa [ignored]
  · rw [started]
    constructor
    · intro run member
      obtain earlier | rfl := by simpa using member
      · exact sound.wired run earlier
      · exact nofun
    · intro index run present released
      have earlier : index < lineage.runs.length := by simpa using released
      rw [List.getElem?_append_left earlier] at present
      exact sound.retired index run present (.inr idle)
    · intro index run present newest worker own
      have last : index = lineage.runs.length := by simpa using newest
      obtain rfl : worker = {} := (Option.some.inj own).symm
      obtain rfl : Relay.initial lineage.session.screen pieces = run := by
        simpa [last] using present
      rfl

theorem stop_dismissed (sound : lineage.Sound) {index : Nat} {run : Relay ε}
    (stopped : lineage.stop.runs[index]? = some run) : run.dismissed = true := by
  rw [stop_run, Option.map_eq_some_iff] at stopped
  obtain ⟨before, present, rfl⟩ := stopped
  have within : index < lineage.runs.length := (List.getElem?_eq_some_iff.mp present).1
  split
  · cases running : lineage.session.worker with
    | none => simp [sound.retired index before present (.inr running)]
    | some worker => simp
  · exact sound.retired index before present (.inl (by omega))

theorem stop (sound : lineage.Sound) : lineage.stop.Sound where
  wired run member := by
    obtain ⟨index, stopped⟩ := List.mem_iff_getElem?.mp member
    rw [stop_run, Option.map_eq_some_iff] at stopped
    obtain ⟨before, present, rfl⟩ := stopped
    have wired : before.Wired := sound.wired before (List.mem_of_getElem? present)
    split <;> exact wired
  retired index run stopped _ := sound.stop_dismissed stopped
  held _ _ _ _ worker own := by cases own

section

variable {index : Nat} {run next : Relay ε} {exited : Bool}

theorem thread (sound : lineage.Sound) (present : lineage.runs[index]? = some run)
    (step : Relay.Step (lineage.session.exited, run.withScreen lineage.session.screen)
      (exited, next)) :
    (lineage.take index run exited next).Sound where
  wired other member := by
    obtain earlier | rfl := List.mem_or_eq_of_mem_set member
    · exact sound.wired other earlier
    · exact step.wired (sound.wired run (List.mem_of_getElem? present))
  retired place other taken released := by
    rw [take_idle, take_runs, List.length_set] at released
    rw [take_run present] at taken
    split at taken
    · next same =>
        subst same
        cases taken
        exact step.dismissed.trans (sound.retired index run present released)
    · exact sound.retired place other taken released
  held place other taken newest worker own := by
    rw [take_runs, List.length_set] at newest
    rw [take_run present] at taken
    rw [take_worker] at own
    split at taken
    · next same =>
        cases taken
        rw [if_pos (same ▸ newest)] at own
        obtain ⟨_, -, rfl⟩ := Option.map_eq_some_iff.mp own
        rfl
    · next differs =>
        rw [if_neg (by omega)] at own
        exact sound.held place other taken newest worker own

end

theorem step (sound : lineage.Sound) {later : Lineage ε κ τ} (step : Step lineage later) :
    later.Sound := by
  cases step with
  | start connector pieces => exact sound.start connector pieces
  | stop => exact sound.stop
  | thread _ present step => exact sound.thread present step

theorem steps (sound : lineage.Sound) {later : Lineage ε κ τ} (steps : Steps lineage later) :
    later.Sound := by
  induction steps with
  | refl => exact sound
  | tail _ last ih => exact ih.step last

end Sound

/-- A step that changes nothing leaves the session as it is. -/
theorem Sound.take_self {lineage : Lineage ε κ τ} (sound : lineage.Sound) {index : Nat}
    {run : Relay ε} (present : lineage.runs[index]? = some run) :
    (lineage.take index run lineage.session.exited
      (run.withScreen lineage.session.screen)).session = lineage.session := by
  have held : (if index + 1 = lineage.runs.length then
      lineage.session.worker.map fun _ => run.progress.worker
    else lineage.session.worker) = lineage.session.worker := by
    split
    · next newest =>
      cases running : lineage.session.worker with
      | none => rfl
      | some worker => rw [Option.map_some, sound.held index run present newest worker running]
    · rfl
  simp [take, Relay.withScreen, held, Session.reply_eq]

/-- The session after two steps of a run is the session after one step to the same end. -/
theorem take_take {lineage later : Lineage ε κ τ} {index : Nat} {run moved next : Relay ε}
    {screen : ε} {flag exited : Bool}
    (took : later.session = (lineage.take index run flag (moved.withScreen screen)).session)
    (length : later.runs.length = lineage.runs.length)
    (first : run.progress.replies <+: moved.progress.replies)
    (second : moved.progress.replies <+: next.progress.replies) :
    (later.take index moved exited next).session = (lineage.take index run exited next).session := by
  -- The connector hears of the replies of both steps one after another, in either account.
  obtain ⟨earlier, replied⟩ := first
  obtain ⟨more, together⟩ := second
  simp only [take, took, length, Relay.withScreen, ← together, ← replied, List.append_assoc,
    List.drop_left]
  simp only [Session.reply_eq, Option.map_map, List.foldl_append]
  split <;> simp [Function.comp_def]

/-- The threads of one run go on by themselves. The session comes to be what it is if they
do all at once. -/
theorem run_steps {lineage : Lineage ε κ τ} (sound : lineage.Sound) {index : Nat} {run : Relay ε}
    {after : Bool × Relay ε} (present : lineage.runs[index]? = some run)
    (steps : Relay.Steps (lineage.session.exited, run.withScreen lineage.session.screen) after) :
    ∃ later moved, Steps lineage later ∧ later.runs = lineage.runs.set index moved ∧
      (later.session.exited, moved.withScreen later.session.screen) = after ∧
      later.session = (lineage.take index run after.1 after.2).session := by
  have within : index < lineage.runs.length := (List.getElem?_eq_some_iff.mp present).1
  -- A longer run of steps keeps its start, so the session is compared with the first one.
  induction steps with
  | refl =>
    refine ⟨lineage, run, .refl, ?_, rfl, ?_⟩
    · rw [List.getElem?_eq_getElem within] at present
      rw [← Option.some.inj present, List.set_getElem_self]
    · exact (sound.take_self present).symm
  | @tail middle last steps step ih =>
      obtain ⟨later, moved, before, runs, rfl, session⟩ := ih
      have there : later.runs[index]? = some moved := by
        rw [runs, List.getElem?_set_self within]
      have replied := Relay.Steps.replies steps
      refine ⟨later.take index moved last.1 last.2, last.2, before.tail (.thread index there step),
        by rw [take_runs, runs, List.set_set], by rw [take_exited, take_screen]; rfl, ?_⟩
      exact take_take session (by rw [runs, List.length_set]) replied step.replies

/-- A round of the session's worker is what the steps of the newest run come to when there is
no other step between them. -/
theorem work_steps {lineage : Lineage ε κ τ} (sound : lineage.Sound) {index : Nat} {run : Relay ε}
    {worker : Worker ε} {found : Round} (present : lineage.runs[index]? = some run)
    (newest : index + 1 = lineage.runs.length) (running : lineage.session.worker = some worker)
    (top : run.turn = .top) (free : run.dismissed = false) (busy : worker.done = false)
    (brings : run.Brings found.late found.received) (flag : found.exited = lineage.session.exited) :
    ∃ later, Steps lineage later ∧ later.session = (lineage.session.work found).1 := by
  obtain rfl : worker = run.progress.worker := sound.held index run present newest worker running
  obtain ⟨next, steps, progress, -⟩ :=
    (run.withScreen lineage.session.screen).round_steps top free busy brings flag
  obtain ⟨later, -, reached, -, -, session⟩ := run_steps sound present steps
  refine ⟨later, reached, session.trans ?_⟩
  have counted : (run.withScreen lineage.session.screen).progress =
      run.progress.after { worker := run.progress.worker, screen := lineage.session.screen } := by
    simp [Relay.withScreen, Progress.after]
  rw [counted, Progress.after_round] at progress
  simp only [take, if_pos newest, running, Session.work, progress, flag]
  simp [Progress.after]

end Lineage

end TtyFrame

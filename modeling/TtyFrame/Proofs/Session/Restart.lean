import TtyFrame.Connector.Echo
import TtyFrame.Proofs.Session.Lineage

/-! A session that is started again while threads of its earlier runs are still there. All
runs share the flag that reports the end of the output, so a thread of an earlier run that
reports late ends the run that has been started since. A run is ended by nobody but itself
or a stop exactly if no thread of an earlier run could still report when it was started. -/

set_option autoImplicit false

namespace TtyFrame

namespace Relay

variable {ε : Type} [Engine ε]

/-- The run has come to an end of its own: its reader has found the end of the output, or
its worker was asked to leave. -/
def Ended (relay : Relay ε) : Prop :=
  relay.reading ∈ [.ended, .reported, .gone] ∨ relay.dismissed = true

/-- The worker has seen the end reported, or has left. -/
def Leaving (relay : Relay ε) : Prop := relay.turn = .left ∨ ∃ taken, relay.turn = .draining taken

/-- One of the threads can still report the end of the output. A reader can unless it has
more to send and nobody to hear it, and a worker can if nothing more reaches it. -/
def MayReport (relay : Relay ε) : Prop :=
  relay.reading = .ended ∨
    (relay.reading = .reading ∧ (relay.unread = [] ∨ relay.turn ≠ .left)) ∨
    relay.turn = .cut ∨
    (relay.turn = .waiting ∧ relay.queue = [] ∧ relay.reading ∈ [.reported, .gone])

section

variable {exited flag : Bool} {relay next : Relay ε}

theorem Step.ended (step : Step (exited, relay) (flag, next)) (ended : relay.Ended) :
    next.Ended := by
  cases step <;> simp_all [Ended, Relay.apply, Relay.finish]

/-- Only a run that has ended raises the flag. -/
theorem Step.raises (step : Step (false, relay) (true, next)) (wired : relay.Wired) :
    next.Ended := by
  cases step with
  | reportEnd ended => exact .inl (by simp)
  | reportCut cut => exact .inl (by simp [wired cut])

/-- While the flag is down, a worker leaves only if it is asked to. -/
theorem Step.stays (step : Step (false, relay) (flag, next)) (stays : ¬ relay.Leaving)
    (free : relay.dismissed = false) : ¬ next.Leaving := by
  cases step <;> simp_all [Leaving, Relay.apply]

private theorem Step.harmless (step : Step (exited, relay) (flag, next))
    (asked : relay.dismissed = true)
    (harmless : ¬ relay.MayReport) : flag = exited ∧ ¬ next.MayReport := by
  cases step <;> simp_all [MayReport, Relay.apply, Relay.finish]

/-- A reader that is heard, or has no more to send, reports the end when it gets there. -/
theorem reader_reports (exited : Bool) (relay : Relay ε) (reads : relay.reading = .reading)
    (heard : relay.unread = [] ∨ relay.turn ≠ .left) :
    ∃ next, Steps (exited, relay) (true, next) := by
  generalize same : relay.unread = unread at heard
  induction unread generalizing relay with
  | nil => exact ⟨_, .head (.findEnd reads same) (.single (.reportEnd rfl))⟩
  | cons piece rest ih =>
      have heard : relay.turn ≠ .left := heard.resolve_left (List.cons_ne_nil _ _)
      obtain ⟨next, reported⟩ := ih
        { relay with unread := rest, queue := relay.queue ++ [piece] } reads rfl (.inr heard)
      exact ⟨next, reported.head (.send reads same heard)⟩

private theorem cut_reports (exited : Bool) (relay : Relay ε) (waits : relay.turn = .waiting)
    (empty : relay.queue = []) (gone : relay.reading = .gone) :
    ∃ next, Steps (exited, relay) (true, next) :=
  ⟨_, .head (.disconnect waits empty gone) (.single (.reportCut rfl))⟩

theorem MayReport.reports (may : relay.MayReport) (exited : Bool) :
    ∃ next, Steps (exited, relay) (true, next) := by
  obtain ended | ⟨reads, heard⟩ | cut | ⟨waits, empty, finished⟩ := may
  · exact ⟨_, .single (.reportEnd ended)⟩
  · exact reader_reports exited relay reads heard
  · exact ⟨_, .single (.reportCut cut)⟩
  · obtain reported | gone : relay.reading = .reported ∨ relay.reading = .gone := by
      simpa using finished
    · obtain ⟨next, steps⟩ := cut_reports exited { relay with reading := .gone } waits empty rfl
      exact ⟨next, steps.head (.letGo reported)⟩
    · exact cut_reports exited relay waits empty gone

/-- A worker that is at the top of its loop leaves it when it finds the end reported,
whatever its own reader is doing. -/
theorem flag_leaves (relay : Relay ε) (top : relay.turn = .top) (free : relay.dismissed = false) :
    ∃ next, Steps (true, relay) (true, next) ∧ next.turn = .left ∧
      next.unread = relay.unread ∧ (next.Ended ↔ relay.Ended) := by
  let drained := { relay with turn := .draining relay.queue, queue := [] }
  have drains : Steps (true, { relay with turn := .draining [] }) (true, drained) :=
    drain_steps true { relay with turn := .draining [] } rfl rfl
  refine ⟨drained.finish relay.queue, ?_, rfl, rfl, .rfl⟩
  refine .head (.wait top free) (.head (.timeOut rfl) (.head (.hold rfl) ?_))
  exact (drains.tail (.finish rfl rfl)).head (.drain rfl)

end

end Relay

namespace Lineage

variable {ε κ τ : Type} [Engine ε]

/-- The newest run is the only one that can still bring the end of the output about, and it
has not done so. -/
structure Alone (lineage : Lineage ε κ τ) (index : Nat) (run : Relay ε) : Prop where
  newest : index + 1 = lineage.runs.length
  down : lineage.session.exited = false
  stays : ¬ run.Leaving
  harmless : ∀ place earlier, place < index → lineage.runs[place]? = some earlier →
    ¬ earlier.MayReport

variable [Connector κ]

namespace Sound

variable {lineage : Lineage ε κ τ}

section

variable {index : Nat} {run next : Relay ε} {exited : Bool}

/-- A step of the newest run leaves it alone, or ends it. -/
theorem own_step (sound : lineage.Sound) (present : lineage.runs[index]? = some run)
    (step : Relay.Step (lineage.session.exited, run.withScreen lineage.session.screen)
      (exited, next)) (alone : lineage.Alone index run) :
    next.Ended ∨ (lineage.take index run exited next).Alone index next := by
  by_cases ended : next.Ended
  · exact .inl ended
  have wired : run.Wired := sound.wired run (List.mem_of_getElem? present)
  rw [alone.down] at step
  have down : exited = false := by
    cases exited with
    | false => rfl
    | true => exact absurd (step.raises wired) ended
  -- A run that is asked to leave counts as ended.
  have free : run.dismissed = false := by
    rw [← Bool.not_eq_true]
    exact fun asked => ended (.inr (step.dismissed.trans asked))
  refine .inr
    { newest := by simpa using alone.newest
      down := by simpa using down
      stays := step.stays alone.stays free
      harmless := fun place earlier before found => ?_ }
  rw [take_run present, if_neg (Nat.ne_of_gt before)] at found
  exact alone.harmless place earlier before found

/-- A step of an earlier run does nothing to a run that is alone. -/
theorem earlier_step (sound : lineage.Sound) {watched : Nat} {newest : Relay ε}
    (present : lineage.runs[index]? = some run)
    (step : Relay.Step (lineage.session.exited, run.withScreen lineage.session.screen)
      (exited, next)) (other : index ≠ watched) (alone : lineage.Alone watched newest) :
    (lineage.take index run exited next).Alone watched newest := by
  have within : index < lineage.runs.length := (List.getElem?_eq_some_iff.mp present).1
  have before : index < watched := by
    have newest := alone.newest
    omega
  have asked : run.dismissed = true :=
    sound.retired index run present (.inl (by have newest := alone.newest; omega))
  obtain ⟨down, harmless⟩ := step.harmless asked (alone.harmless index run before present)
  refine
    { newest := by simpa using alone.newest
      down := by rw [take_exited, down, alone.down]
      stays := alone.stays
      harmless := fun place earlier sooner found => ?_ }
  rw [take_run present] at found
  split at found
  · cases found
    exact harmless
  · exact alone.harmless place earlier sooner found

end

/-- A run that has ended stays so, and one that is alone stays alone until it ends. -/
theorem kept (sound : lineage.Sound) {later : Lineage ε κ τ} (step : Step lineage later)
    {index : Nat} {run : Relay ε} (present : lineage.runs[index]? = some run)
    (kept : run.Ended ∨ lineage.Alone index run) :
    ∃ next, later.runs[index]? = some next ∧ (next.Ended ∨ later.Alone index next) := by
  cases step with
  | start connector pieces =>
      obtain ignored | ⟨idle, _, attached, started⟩ := lineage.start_cases connector pieces
      · rw [ignored]
        exact ⟨run, present, kept⟩
      -- Another run begins only when this one was let go of.
      · have within : index < lineage.runs.length := (List.getElem?_eq_some_iff.mp present).1
        rw [started]
        exact ⟨run, by rw [List.getElem?_append_left within, present],
          .inl (.inr (sound.retired index run present (.inr idle)))⟩
  | stop =>
      obtain ⟨next, stopped⟩ : ∃ next, lineage.stop.runs[index]? = some next := by
        rw [stop_run, present]
        exact ⟨_, rfl⟩
      exact ⟨next, stopped, .inl (.inr (sound.stop_dismissed stopped))⟩
  | @thread moved mover next exited found step =>
      rw [take_run found]
      by_cases own : moved = index
      · subst own
        cases present.symm.trans found
        rw [if_pos rfl]
        obtain ended | alone := kept
        · exact ⟨next, rfl, .inl (step.ended ended)⟩
        · exact ⟨next, rfl, sound.own_step found step alone⟩
      · rw [if_neg own]
        exact ⟨run, present, kept.imp_right (sound.earlier_step found step own)⟩

theorem kept_steps (sound : lineage.Sound) {later : Lineage ε κ τ} (steps : Steps lineage later)
    {index : Nat} {run : Relay ε} (present : lineage.runs[index]? = some run)
    (kept : run.Ended ∨ lineage.Alone index run) :
    ∃ last, later.runs[index]? = some last ∧ (last.Ended ∨ later.Alone index last) := by
  induction steps with
  | refl => exact ⟨run, present, kept⟩
  | tail before last ih =>
      obtain ⟨next, there, held⟩ := ih
      exact (sound.steps before).kept last there held

end Sound

/-- A run that has begun when nothing of earlier runs could report is alone. -/
theorem Sound.begun_kept {lineage started : Lineage ε κ τ} (sound : started.Sound)
    {screen : ε} {pieces : List (List UInt8)}
    (begun : started.runs = lineage.runs ++ [.initial screen pieces])
    (down : started.session.exited = false)
    (harmless : ∀ earlier ∈ lineage.runs, ¬ earlier.MayReport) {later : Lineage ε κ τ}
    (steps : Steps started later) {run : Relay ε}
    (present : later.runs[lineage.runs.length]? = some run)
    (closed : run.turn = .left ∨ later.session.exited = true) : run.Ended := by
  have there : started.runs[lineage.runs.length]? = some (.initial screen pieces) := by
    simp [begun]
  have alone : started.Alone lineage.runs.length (.initial screen pieces) :=
    { newest := by simp [begun]
      down
      stays := by simp [Relay.Leaving, Relay.initial]
      harmless := fun place earlier before found => by
        rw [begun, List.getElem?_append_left before] at found
        exact harmless earlier (List.mem_of_getElem? found) }
  obtain ⟨last, found, ended | alone⟩ := sound.kept_steps steps there (.inr alone)
  · cases present.symm.trans found
    exact ended
  · cases present.symm.trans found
    obtain left | raised := closed
    · exact absurd (.inl left) alone.stays
    · exact absurd (alone.down.symm.trans raised) Bool.false_ne_true

/-- A thread of an earlier run that can still report ends a run that has just begun. Its
worker leaves while its reader has all its pieces before it. -/
theorem Sound.earlier_ends {lineage started : Lineage ε κ τ} (sound : started.Sound)
    {screen : ε} {pieces : List (List UInt8)}
    (begun : started.runs = lineage.runs ++ [.initial screen pieces])
    {earlier : Relay ε} (member : earlier ∈ lineage.runs) (may : earlier.MayReport) :
    ∃ later run, Steps started later ∧ later.runs[lineage.runs.length]? = some run ∧
      run.turn = .left ∧ later.session.exited = true ∧ run.unread = pieces ∧ ¬ run.Ended := by
  obtain ⟨place, present⟩ := List.mem_iff_getElem?.mp member
  have within : place < lineage.runs.length := (List.getElem?_eq_some_iff.mp present).1
  have there : started.runs[place]? = some earlier := by
    rw [begun, List.getElem?_append_left within, present]
  have able : (earlier.withScreen started.session.screen).MayReport := may
  obtain ⟨_, reports⟩ := able.reports started.session.exited
  obtain ⟨reported, _, first, others, raised, -⟩ := run_steps sound there reports
  have newest : reported.runs[lineage.runs.length]? = some (.initial screen pieces) := by
    rw [others, List.getElem?_set_ne (Nat.ne_of_lt within), begun]
    simp
  obtain ⟨next, leaves, left, unread, ended⟩ :=
    ((Relay.initial screen pieces).withScreen reported.session.screen).flag_leaves rfl rfl
  rw [← (Prod.mk.inj raised).1] at leaves
  obtain ⟨later, run, second, moved, same, -⟩ := run_steps (sound.steps first) newest leaves
  have found : later.runs[lineage.runs.length]? = some run := by
    rw [moved, List.getElem?_set_self (List.getElem?_eq_some_iff.mp newest).1]
  obtain ⟨up, rfl⟩ := Prod.mk.inj same
  refine ⟨later, run, first.trans second, found, left, ?_, unread, fun already => ?_⟩
  · rw [up, (Prod.mk.inj raised).1]
  · have early := ended.mp already
    simp [Relay.Ended, Relay.withScreen, Relay.initial] at early

/-- A start that is answered with success leaves the flag up if it was ignored after the
output had ended. The run that it begins is ended by nobody but itself or a stop exactly if
no thread of an earlier run can still report. -/
theorem start_ended_iff {config : Config} {lineage : Lineage ε κ τ}
    (reached : Steps (initial config) lineage) (connector : κ) (pieces : List (List UInt8))
    (accepted : (lineage.session.start connector).2 = .ok ()) :
    ((lineage.start connector pieces).session.exited = true ↔
      lineage.session.worker ≠ none ∧ lineage.session.exited = true) ∧
    (lineage.session.worker = none →
      ((∀ later run, Steps (lineage.start connector pieces) later →
          later.runs[lineage.runs.length]? = some run →
          run.turn = .left ∨ later.session.exited = true → run.Ended) ↔
        ∀ earlier ∈ lineage.runs, ¬ earlier.MayReport)) := by
  have sound : (lineage.start connector pieces).Sound :=
    ((initial_sound config).steps reached).start connector pieces
  by_cases idle : lineage.session.worker = none
  · obtain ⟨attached, started⟩ := start_idle idle accepted pieces
    have begun : (lineage.start connector pieces).runs =
        lineage.runs ++ [.initial lineage.session.screen pieces] := by rw [started]
    refine ⟨by simp [started, idle], fun _ => ⟨fun own earlier member may => ?_, ?_⟩⟩
    · obtain ⟨later, run, steps, present, left, -, -, unended⟩ :=
        sound.earlier_ends begun member may
      exact unended (own later run steps present (.inl left))
    · intro harmless later run steps present closed
      exact sound.begun_kept begun (by rw [started]) harmless steps present closed
  · rw [start_running idle]
    exact ⟨by simp [idle], fun absent => absurd absent idle⟩

def stopped : Lineage Screen.State Echo Unit := ((initial {}).start {} []).stop

def stoppedRun : Relay Screen.State :=
  { Relay.initial stopped.session.screen [] with dismissed := true }

/-- The reader of the stopped run has found the end and has not reported it. -/
def late : Lineage Screen.State Echo Unit :=
  stopped.take 0 stoppedRun true { stoppedRun with reading := .ended }

private theorem late_reached : Steps (initial {}) late := by
  refine .head (.start {} []) (.head .stop (.single ?_))
  exact .thread 0 rfl (.findEnd rfl rfl)

private theorem late_idle : late.session.worker = none := rfl

private theorem late_accepts : (late.session.start {}).2 = .ok () := rfl

/-- The stopped run is through, its reader and its worker. -/
def quiet : Lineage Screen.State Echo Unit :=
  let reported := { stoppedRun with reading := .reported }
  (late.take 0 { stoppedRun with reading := .ended } true reported).take
    0 reported true { reported with turn := .left }

private theorem quiet_reached : Steps (initial {}) quiet :=
  (late_reached.tail (.thread 0 rfl (.reportEnd rfl))).tail (.thread 0 rfl (.obey rfl rfl))

theorem start_ended_iff_quiet :
    Steps (initial {}) quiet ∧ (quiet.session.start {}).2 = .ok () ∧
      quiet.session.worker = none ∧ (quiet.start {} [[0x41]]).session.exited ≠ true ∧
      ∀ later run, Steps (quiet.start {} [[0x41]]) later → later.runs[1]? = some run →
        run.turn = .left ∨ later.session.exited = true → run.Ended := by
  obtain ⟨up, own⟩ := start_ended_iff quiet_reached {} [[0x41]] rfl
  refine ⟨quiet_reached, rfl, rfl, fun raised => (up.mp raised).1 rfl, (own rfl).mpr ?_⟩
  intro earlier member
  obtain rfl := List.mem_singleton.mp member
  exact nofun

/-- A run whose end was reported, while its worker is still there. -/
def ended : Lineage Screen.State Echo Unit :=
  let started := (initial {}).start {} []
  let run := Relay.initial started.session.screen []
  (started.take 0 run false { run with reading := .ended }).take
    0 { run with reading := .ended } true { run with reading := .reported }

private theorem ended_reached : Steps (initial {}) ended := by
  refine .head (.start {} []) (.head (.thread 0 rfl (.findEnd rfl rfl)) ?_)
  exact .single (.thread 0 rfl (.reportEnd rfl))

/-- A reader that reports late ends the run that was started before it did. Also, a session
whose output has ended ignores a start, and answers it with success. -/
theorem late_reader_ends_next_run :
    (¬ ∀ (config : Config) (lineage : Lineage Screen.State Echo Unit) (connector : Echo)
        (pieces : List (List UInt8)), Steps (initial config) lineage →
        (lineage.session.start connector).2 = .ok () → lineage.session.worker = none →
        ∀ later run, Steps (lineage.start connector pieces) later →
          later.runs[lineage.runs.length]? = some run →
          run.turn = .left ∨ later.session.exited = true → run.Ended) ∧
      Steps (initial {}) ended ∧ (ended.session.start {}).2 = .ok () ∧
        (ended.start {} [[0x41]]).session.exited = true := by
  refine ⟨fun own => ?_, ended_reached, rfl, rfl⟩
  have begun : (late.start {} [[0x41]]).runs =
      late.runs ++ [.initial late.session.screen [[0x41]]] := by
    obtain ⟨attached, started⟩ := start_idle late_idle late_accepts [[0x41]]
    rw [started]
  have may : Relay.MayReport { stoppedRun with reading := .ended } := .inl rfl
  have sound : (late.start {} [[0x41]]).Sound :=
    ((initial_sound {}).steps late_reached).start {} [[0x41]]
  obtain ⟨later, run, steps, present, left, -, -, unended⟩ :=
    sound.earlier_ends begun (.head _) may
  exact unended (own {} late {} [[0x41]] late_reached rfl rfl later run steps present (.inl left))

end Lineage

end TtyFrame

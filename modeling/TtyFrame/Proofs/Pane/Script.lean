import TtyFrame.Pane
import TtyFrame.Proofs.Presentation.Drain
import TtyFrame.Proofs.Scroll.Range
import TtyFrame.Proofs.Session.Cases

/-! Runs of a pane through its own calls. A call reads output, resizes, takes settings over,
pumps or renders, or else it changes nothing of the picture but where it is scrolled to. -/

set_option autoImplicit false

namespace TtyFrame

theorem Size.clamped_clamped (size : Size) : size.clamped.clamped = size.clamped := by
  simp only [clamped, Nat.max_assoc, Nat.max_self]

namespace ViewState

variable {α : Type} [Scroll.Distance α]

/-- Takes changes over in order. -/
def applyChanges (view : ViewState α) (changes : List BufferChange) : ViewState α :=
  changes.foldl (fun view change => view.applyChange change) view

theorem applyChanges_append (view : ViewState α) (changes : List BufferChange)
    (change : BufferChange) :
    view.applyChanges (changes ++ [change]) = (view.applyChanges changes).applyChange change :=
  List.foldl_append ..

private theorem applyChange_inRange (view : ViewState α) (change : BufferChange) :
    (view.applyChange change).scroll.InRange :=
  Scroll.State.setHistory_inRange ..

private theorem applyChanges_inRange {view : ViewState α} (inRange : view.scroll.InRange)
    (changes : List BufferChange) : (view.applyChanges changes).scroll.InRange := by
  induction changes generalizing view with
  | nil => exact inRange
  | cons change rest ih => exact ih (view.applyChange_inRange change)

theorem applyChanges_frame (view : ViewState α) (changes : List BufferChange) :
    (view.applyChanges changes).frame = view.frame := by
  induction changes generalizing view with
  | nil => rfl
  | cons change rest ih => exact ih (view.applyChange change)

theorem applyChanges_dirty {view : ViewState α} {changes : List BufferChange}
    (clean : (view.applyChanges changes).dirty = false) : changes = [] ∧ view.dirty = false := by
  induction changes generalizing view with
  | nil => exact ⟨rfl, clean⟩
  | cons change rest ih => exact nomatch (ih clean).2

omit [Scroll.Distance α] in
/-- A failed build changes nothing. -/
theorem takeFrame_error (view : ViewState α) (cause : RenderError) :
    view.takeFrame (.error cause) =
      (view,
        match view.frame with
        | some frame => .ok frame
        | none => .error cause) := by
  unfold takeFrame
  cases view.frame with
  | some frame => rfl
  | none => rfl

omit [Scroll.Distance α] in
theorem takeFrame_scroll (view : ViewState α) (built : Except RenderError Frame) :
    (view.takeFrame built).1.scroll = view.scroll := by
  cases built with
  | ok frame => rfl
  | error cause =>
    rw [takeFrame_error]

end ViewState

namespace Pane

/-- A call of a pane. -/
inductive Call (κ α : Type) where
  | start (connector : κ)
  | stop
  | setWaker (weight : Nat)
  | output (piece : List UInt8)
  | endOutput
  | input (event : Composition.Event)
  | sendText (text : String)
  | drag (delta height : α)
  | scrollLines (lines : Int)
  | scrollToBottom
  | fit (width height cellWidth cellHeight : α)
  | configure (config : Config)
  | pump
  | render (held : Bool)

variable {ε κ α τ : Type} [Engine ε]

/-- What a call keeps if all that it may do to the picture is to scroll it, and then it
raises the dirty flag. -/
structure Still (before after : Pane ε κ α τ) : Prop where
  size : after.session.size = before.session.size
  screen : after.session.screen = before.session.screen
  style : after.session.style = before.session.style
  listeners : after.session.listeners = before.session.listeners
  told : before.session.Told → after.session.Told
  palette : after.palette = before.palette
  queue : after.context.queue = before.context.queue
  pending : after.context.pending = before.context.pending
  borrowed : after.context.borrowed = before.context.borrowed
  frame : after.view.frame = before.view.frame
  history : after.view.scroll.history = before.view.scroll.history
  alternate : after.view.scroll.alternate = before.view.scroll.alternate
  inRange : before.view.scroll.InRange → after.view.scroll.InRange
  dirty : after.view.dirty = false →
    before.view.dirty = false ∧ after.view.scroll.origin = before.view.scroll.origin

theorem updateView_view (pane : Pane ε κ α τ) (change : ViewState α → ViewState α) :
    (pane.updateView change).view = change pane.view := rfl

namespace Still

theorem refl (pane : Pane ε κ α τ) : Still pane pane :=
  ⟨rfl, rfl, rfl, rfl, id, rfl, rfl, rfl, rfl, rfl, rfl, rfl, id, fun clean => ⟨clean, rfl⟩⟩

theorem trans {first second third : Pane ε κ α τ} (before : Still first second)
    (after : Still second third) : Still first third where
  size := after.size.trans before.size
  screen := after.screen.trans before.screen
  style := after.style.trans before.style
  listeners := after.listeners.trans before.listeners
  told := after.told ∘ before.told
  palette := after.palette.trans before.palette
  queue := after.queue.trans before.queue
  pending := after.pending.trans before.pending
  borrowed := after.borrowed.trans before.borrowed
  frame := after.frame.trans before.frame
  history := after.history.trans before.history
  alternate := after.alternate.trans before.alternate
  inRange := after.inRange ∘ before.inRange
  dirty clean := by
    obtain ⟨middle, moved⟩ := after.dirty clean
    obtain ⟨start, kept⟩ := before.dirty middle
    exact ⟨start, moved.trans kept⟩

theorem attached (pane : Pane ε κ α τ) (connector : Option κ) (worker : Option (Worker ε))
    (exited : Bool) (told : pane.session.Told → ∀ last, worker = some last → last.pending = none) :
    Still pane { pane with session := { pane.session with connector, worker, exited } } :=
  { refl pane with told }

theorem composed (pane : Pane ε κ α τ) (input : Composition.Session) :
    Still pane (pane.updateView fun view => { view with input }) :=
  { refl pane with }

theorem scrolled (pane : Pane ε κ α τ) (move : Scroll.State α → Scroll.State α × Bool)
    (moves : Scroll.State.Moves pane.view.scroll (move pane.view.scroll)) :
    Still pane (pane.scrollWith move).1 :=
  { refl pane with
    history := moves.history
    alternate := moves.alternate
    inRange := moves.inRange
    dirty := fun clean => by
      obtain ⟨before, still⟩ : pane.view.dirty = false ∧ (move pane.view.scroll).2 = false :=
        Bool.or_eq_false_iff.mp clean
      exact ⟨before, moves.still still⟩ }

end Still

theorem start_still [Connector κ] (pane : Pane ε κ α τ) (connector : κ) :
    Still pane (pane.start connector).1 := by
  obtain ⟨outcome, done⟩ | ⟨opened, attached, -, -, -, done⟩ := pane.session.start_cases connector
  · rw [start, done]
    exact .refl pane
  · rw [start, done]
    refine .attached pane (some attached) (some {}) false fun _ last first => ?_
    obtain rfl := Option.some.inj first
    rfl

theorem stop_still [Connector κ] (pane : Pane ε κ α τ) : Still pane pane.stop.1 :=
  (Still.attached pane none none true fun _ _ running => nomatch running).trans
    (.composed _ pane.view.input.reset)

theorem write_still [Connector κ] (pane : Pane ε κ α τ) (bytes : List UInt8) :
    Still pane (pane.write bytes) := by
  obtain ⟨connector, sent⟩ := pane.session.send_cases bytes
  rw [write, sent]
  exact .attached pane connector pane.session.worker pane.session.exited id

theorem render_eq (pane : Pane ε κ α τ) (held : Bool) :
    pane.render held =
      (pane.pump.1.updateView fun _ =>
          (pane.pump.1.view.takeFrame (pane.pump.1.build
            (if held then .error .timeout else .ok pane.pump.1.session.view))).1,
        (pane.pump.1.view.takeFrame (pane.pump.1.build
            (if held then .error .timeout else .ok pane.pump.1.session.view))).2) := rfl

theorem render_scroll (pane : Pane ε κ α τ) (held : Bool) :
    (pane.render held).1.view.scroll = pane.pump.1.view.scroll := by
  rw [render_eq, updateView_view, ViewState.takeFrame_scroll]

/-- The call is output and the session reads it. -/
def isRead (pane : Pane ε κ α τ) : Call κ α → Bool
  | .output _ => pane.session.isReading
  | _ => false

variable [Scroll.Distance α]

/-- What holds of a pane between calls. -/
structure Steady (pane : Pane ε κ α τ) : Prop where
  listeners : pane.session.listeners.registered = [.view]
  told : pane.session.Told
  wide : Config.minColumns ≤ pane.session.size.columns
  high : Config.minRows ≤ pane.session.size.rows
  free : pane.context.borrowed = false
  raised : pane.context.pending = false → pane.context.queue = []
  waiting : ∃ changes, pane.context.queue = List.map ViewState.changeJob changes
  inRange : pane.view.scroll.InRange

/-- A pane whose worker has got to a screen, with the job that tells the view. -/
def readTo (pane : Pane ε κ α τ) (worker : Worker ε) (screen : ε)
    (exited : Bool) (connector : Option κ) : Pane ε κ α τ :=
  { pane with
    session := { pane.session with worker := some worker, screen, exited, connector }
    context := pane.context.submit (ViewState.changeJob
      (.ofView worker.generation (Engine.view screen))) }

section ReadTo

variable (pane : Pane ε κ α τ) (worker : Worker ε) (screen : ε)
  (exited : Bool) (connector : Option κ)

theorem readTo_queue {changes : List BufferChange}
    (waiting : pane.context.queue = changes.map ViewState.changeJob) :
    (pane.readTo worker screen exited connector).context.queue =
      List.map ViewState.changeJob (changes ++
        [.ofView worker.generation (Engine.view screen)]) := by
  rw [readTo, Presentation.Context.submit_eq, waiting, List.map_append]
  rfl

private theorem readTo_pending :
    (pane.readTo worker screen exited connector).context.pending = true := by
  rw [readTo, Presentation.Context.submit_eq]

private theorem readTo_borrowed :
    (pane.readTo worker screen exited connector).context.borrowed = pane.context.borrowed := by
  rw [readTo, Presentation.Context.submit_eq]

theorem readTo_view : (pane.readTo worker screen exited connector).view = pane.view := by
  rw [readTo, view, Presentation.Context.submit_eq]
  rfl

end ReadTo

/-- A pane of another size, which is to be drawn. -/
def resizeTo (pane : Pane ε κ α τ) (size : Size) (connector : Option κ) : Pane ε κ α τ :=
  { pane with
    session :=
      { pane.session with
        size, connector, screen := Engine.resize pane.session.screen size.columns size.rows }
    context := pane.context.update fun view => { view with dirty := true } }

/-- The ways in which a call can change a pane. -/
inductive Effect (pane : Pane ε κ α τ) : Call κ α → Pane ε κ α τ × Option Frame → Prop where
  | still {call : Call κ α} {next : Pane ε κ α τ} (unread : pane.isRead call = false)
      (still : Still pane next) : Effect pane call (next, none)
  | read {piece : List UInt8} {worker : Worker ε} (screen : ε) (exited : Bool)
      (connector : Option κ) (reading : pane.session.isReading = true)
      (told : worker.pending = none)
      (written : ∃ stream, screen = (Engine.takeBytes stream pane.session.screen piece).2.1) :
      Effect pane (.output piece) (pane.readTo worker screen exited connector, none)
  | resized {width height cellWidth cellHeight : α} (size : Size) (connector : Option κ) :
      Effect pane (.fit width height cellWidth cellHeight)
        (pane.resizeTo size.clamped connector, none)
  | configured (config : Config) : Effect pane (.configure config) (pane.configure config, none)
  | pumped : Effect pane .pump (pane.pump.1, none)
  | rendered (held : Bool) :
      Effect pane (.render held) ((pane.render held).1, (pane.render held).2.toOption)

theorem ofConfig_steady (config : Config) : (ofConfig config : Pane ε κ α τ).Steady where
  listeners := rfl
  told _ running := nomatch running
  wide := Nat.le_max_right ..
  high := Nat.le_max_right ..
  free := rfl
  raised _ := rfl
  waiting := ⟨[], rfl⟩
  inRange := Scroll.State.initial_inRange (α := α)

/-- A pump takes the changes off the queue and over. -/
theorem pump_eq {pane : Pane ε κ α τ} (free : pane.context.borrowed = false)
    {changes : List BufferChange} (waiting : pane.context.queue = changes.map ViewState.changeJob) :
    pane.pump.1 =
      { pane with
        context :=
          { pane.context with
            state := pane.view.applyChanges changes
            queue := []
            pending := false } } := by
  have leaves : ∀ job ∈ pane.context.queue, job.next = [] := by
    intro job member
    rw [waiting] at member
    obtain ⟨change, -, rfl⟩ := List.mem_map.mp member
    rfl
  have drained := Presentation.Context.drain_leaves free leaves
  rw [waiting, List.foldl_map] at drained
  exact congrArg (fun context => { pane with context }) drained

namespace Steady

variable {pane : Pane ε κ α τ}

theorem still (steady : pane.Steady) {next : Pane ε κ α τ} (still : Still pane next) :
    next.Steady where
  listeners := by rw [still.listeners, steady.listeners]
  told := still.told steady.told
  wide := by rw [still.size]; exact steady.wide
  high := by rw [still.size]; exact steady.high
  free := by rw [still.borrowed, steady.free]
  raised := by rw [still.pending, still.queue]; exact steady.raised
  waiting := by rw [still.queue]; exact steady.waiting
  inRange := still.inRange steady.inRange

theorem pump (steady : pane.Steady) : pane.pump.1.Steady := by
  obtain ⟨changes, waiting⟩ := steady.waiting
  rw [pump_eq steady.free waiting]
  exact { steady with
    raised := fun _ => rfl
    waiting := ⟨[], rfl⟩
    inRange := ViewState.applyChanges_inRange steady.inRange changes }

theorem effect (steady : pane.Steady) {call : Call κ α} {result : Pane ε κ α τ × Option Frame}
    (effect : Effect pane call result) : result.1.Steady := by
  cases effect with
  | still _ still => exact steady.still still
  | @read piece worker screen exited connector reading told written =>
    obtain ⟨changes, waiting⟩ := steady.waiting
    exact {
      listeners := steady.listeners
      told := fun last running => Option.some.inj running ▸ told
      wide := steady.wide
      high := steady.high
      free := (pane.readTo_borrowed ..).trans steady.free
      raised := fun lowered => by rw [readTo_pending] at lowered; cases lowered
      waiting := ⟨_, pane.readTo_queue _ _ _ _ waiting⟩
      inRange := by
        rw [readTo_view]
        exact steady.inRange }
  | resized size connector =>
    exact { steady with wide := Nat.le_max_right .., high := Nat.le_max_right .. }
  | configured config => exact { steady with }
  | pumped => exact steady.pump
  | rendered held =>
    refine { steady.pump with inRange := ?_ }
    rw [render_scroll]
    exact steady.pump.inRange

end Steady

private theorem scrollToBottom_still (pane : Pane ε κ α τ) : Still pane pane.scrollToBottom :=
  .scrolled pane (fun scroll => (scroll.scrollToBottom, !scroll.isAtBottom))
    (Scroll.State.scrollToBottom_moves _)

variable [Connector κ]

private theorem dispatch_still (pane : Pane ε κ α τ) (sends : List Composition.Outgoing) :
    Still pane (pane.dispatch sends) := by
  have written (start : Pane ε κ α τ) :
      Still start (sends.foldl (fun pane outgoing => pane.write (outgoingBytes outgoing)) start) := by
    induction sends generalizing start with
    | nil => exact .refl start
    | cons outgoing rest ih => exact (write_still start _).trans (ih _)
  unfold dispatch
  split
  · exact .refl pane
  · exact (scrollToBottom_still pane).trans (written _)

theorem handle_still (pane : Pane ε κ α τ) (event : Composition.Event) :
    Still pane (pane.handle event).1 :=
  (Still.composed pane _).trans (dispatch_still _ _)

variable [Extent α]

/-- Makes a call and gives the frame that a render has come out with. -/
def step (pane : Pane ε κ α τ) : Call κ α → Pane ε κ α τ × Option Frame
  | .start connector => ((pane.start connector).1, none)
  | .stop => (pane.stop.1, none)
  | .setWaker weight => (pane.setWaker weight, none)
  | .output piece => ((pane.output piece).1, none)
  | .endOutput => (pane.endOutput.1, none)
  | .input event => ((pane.handle event).1, none)
  | .sendText text => (pane.sendText text, none)
  | .drag delta height => ((pane.drag delta height).1, none)
  | .scrollLines lines => ((pane.scrollLines lines).1, none)
  | .scrollToBottom => (pane.scrollToBottom, none)
  | .fit width height cellWidth cellHeight => ((pane.fit width height cellWidth cellHeight).1, none)
  | .configure config => (pane.configure config, none)
  | .pump => (pane.pump.1, none)
  | .render held => ((pane.render held).1, (pane.render held).2.toOption)

/-- Makes calls in order and gives the frames that were rendered. -/
def follow (pane : Pane ε κ α τ) : List (Call κ α) → Pane ε κ α τ × List Frame
  | [] => (pane, [])
  | call :: rest =>
    let (next, rendered) := pane.step call
    let (last, frames) := next.follow rest
    (last, rendered.toList ++ frames)

theorem fit_effect (pane : Pane ε κ α τ) (width height cellWidth cellHeight : α) :
    Effect pane (.fit width height cellWidth cellHeight)
      ((pane.fit width height cellWidth cellHeight).1, none) := by
  unfold fit
  split
  · exact .still rfl (.refl pane)
  · dsimp only
    split
    · exact .still rfl (.refl pane)
    · next fresh =>
      have settled := (Size.fitting width height cellWidth cellHeight).clamped_clamped
      obtain ⟨same, -⟩ | ⟨-, -, done⟩ | ⟨-, connector, -, done⟩ :=
        pane.session.resize_cases (Size.fitting width height cellWidth cellHeight).clamped
      · exact absurd (settled.symm.trans same.symm) fresh
      · rw [done, settled]
        exact .resized _ _
      · rw [done, settled]
        exact .resized _ _

theorem step_effect {pane : Pane ε κ α τ} (steady : pane.Steady) (call : Call κ α) :
    Effect pane call (pane.step call) := by
  cases call with
  | start connector => exact .still rfl (start_still pane connector)
  | stop => exact .still rfl (stop_still pane)
  | setWaker weight => exact .still rfl { Still.refl pane with }
  | output piece =>
    obtain ⟨idle, exited, connector, done⟩ |
        ⟨reading, worker, screen, exited, connector, told, written, done⟩ :=
      pane.session.output_cases piece
    · have same : pane.step (.output piece) =
          ({ pane with session := { pane.session with connector, exited } }, none) := by
        rw [step, output, work, ← Session.output, done]
        rfl
      rw [same]
      exact .still idle (.attached pane connector pane.session.worker exited id)
    · rw [steady.listeners] at done
      have applied : pane.step (.output piece) =
          (pane.readTo worker screen exited connector, none) := by
        rw [step, output, work, ← Session.output, done]
        rfl
      rw [applied]
      exact .read screen exited connector reading told written
  | endOutput =>
    obtain ⟨worker, exited, connector, told, done⟩ := Session.endOutput_cases steady.told
    have same : pane.step .endOutput =
        ({ pane with session := { pane.session with connector, worker, exited } }, none) := by
      rw [step, endOutput, work, ← Session.endOutput, done]
      rfl
    rw [same]
    exact .still rfl (.attached pane connector worker exited fun _ => told)
  | input event => exact .still rfl (handle_still pane event)
  | sendText text => exact .still rfl (write_still pane _)
  | drag delta height =>
    exact .still rfl (.scrolled pane (·.drag delta height) (Scroll.State.drag_moves _ delta height))
  | scrollLines lines =>
    exact .still rfl (.scrolled pane (·.scrollLines lines) (Scroll.State.scrollLines_moves _ lines))
  | scrollToBottom => exact .still rfl (scrollToBottom_still pane)
  | fit width height cellWidth cellHeight => exact fit_effect pane width height cellWidth cellHeight
  | configure config => exact .configured config
  | pump => exact .pumped
  | render held => exact .rendered held

theorem Steady.follow {pane : Pane ε κ α τ} (steady : pane.Steady) (calls : List (Call κ α)) :
    (pane.follow calls).1.Steady := by
  induction calls generalizing pane with
  | nil => exact steady
  | cons call rest ih => exact ih (steady.effect (step_effect steady call))

end Pane

end TtyFrame

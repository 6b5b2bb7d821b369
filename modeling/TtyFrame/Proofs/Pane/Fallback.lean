import TtyFrame.Proofs.Pane.Access
import TtyFrame.Proofs.Pane.Input
import TtyFrame.Proofs.Presentation.InTurn

/-! Renders that do not get the buffer. The last frame that could be built stands in, and
apart from the pump that every render starts with nothing comes of them: a run in which some
renders get the buffer differs from a run in which others do by the kept frame and by the
dirty flag, and neither goes into the next frame. -/

set_option autoImplicit false

namespace TtyFrame

private theorem ViewState.applyChanges_redrawn {α : Type} [Scroll.Distance α] (view : ViewState α)
    (frame : Option Frame) (dirty : Bool) (changes : List BufferChange) :
    ∃ last changed, ({ view with frame, dirty } : ViewState α).applyChanges changes =
      { view.applyChanges changes with frame := last, dirty := changed } := by
  induction changes generalizing view dirty with
  | nil => exact ⟨frame, dirty, rfl⟩
  | cons change rest ih => exact ih (view.applyChange change) true

private theorem ViewState.takeInput_redrawn {α : Type} [Scroll.Distance α] (view : ViewState α)
    (frame : Option Frame) (dirty : Bool) (input : Composition.Session)
    (sends : List Composition.Outgoing) :
    ∃ changed, ({ view with frame, dirty } : ViewState α).takeInput input sends =
      { view.takeInput input sends with frame, dirty := changed } := by
  cases sends with
  | nil => exact ⟨dirty, rfl⟩
  | cons outgoing rest => exact ⟨_, rfl⟩

namespace Pane

variable {ε κ α τ : Type} [Engine ε]

/-- The panes differ by the kept frame and the dirty flag at most. -/
def Redrawn (before after : Pane ε κ α τ) : Prop :=
  ∃ frame dirty, after = before.updateView fun view => { view with frame, dirty }

/-- What a render builds from the buffer, if it gets it. -/
def attempt (pane : Pane ε κ α τ) (held : Bool) : Except RenderError Frame :=
  pane.pump.1.build (if held then .error .timeout else .ok pane.pump.1.session.view)

theorem render_congr {first second : Pane ε κ α τ} (pumped : first.pump.1 = second.pump.1)
    (held : Bool) : first.render held = second.render held := by
  rw [render_eq, pumped, ← render_eq]

private theorem render_redrawn (pane : Pane ε κ α τ) (held : Bool) :
    Redrawn pane.pump.1 (pane.render held).1 := by
  have rendered : (pane.render held).1 =
      pane.pump.1.updateView fun _ => (pane.pump.1.view.takeFrame (pane.attempt held)).1 := rfl
  rw [rendered]
  cases pane.attempt held with
  | ok frame => exact ⟨some frame, false, rfl⟩
  | error cause =>
    rw [ViewState.takeFrame_error]
    exact ⟨pane.pump.1.view.frame, pane.pump.1.view.dirty, rfl⟩

namespace Redrawn

variable {before after : Pane ε κ α τ}

theorem refl (pane : Pane ε κ α τ) : Redrawn pane pane := ⟨pane.view.frame, pane.view.dirty, rfl⟩

theorem trans {last : Pane ε κ α τ} (first : Redrawn before after) (second : Redrawn after last) :
    Redrawn before last := by
  obtain ⟨_, _, rfl⟩ := first
  obtain ⟨frame, dirty, rfl⟩ := second
  exact ⟨frame, dirty, rfl⟩

theorem session (redrawn : Redrawn before after) : after.session = before.session := by
  obtain ⟨frame, dirty, rfl⟩ := redrawn
  rfl

theorem scroll (redrawn : Redrawn before after) : after.view.scroll = before.view.scroll := by
  obtain ⟨frame, dirty, rfl⟩ := redrawn
  rfl

theorem input (redrawn : Redrawn before after) : after.view.input = before.view.input := by
  obtain ⟨frame, dirty, rfl⟩ := redrawn
  rfl

theorem build (redrawn : Redrawn before after) (buffer : Except LockError BufferView) :
    after.build buffer = before.build buffer := by
  obtain ⟨frame, dirty, rfl⟩ := redrawn
  rfl

theorem fit [Connector κ] [Extent α] (redrawn : Redrawn before after)
    (width height cellWidth cellHeight : α) :
    Redrawn (before.fit width height cellWidth cellHeight).1
      (after.fit width height cellWidth cellHeight).1 := by
  have same := redrawn
  obtain ⟨frame, dirty, rfl⟩ := same
  unfold Pane.fit
  dsimp only [updateView]
  split
  · exact redrawn
  · split
    · exact redrawn
    · exact ⟨frame, true, rfl⟩

end Redrawn

variable [Scroll.Distance α]

/-- What holds of a pane between accesses, with the frame that it keeps. -/
structure Keeps (shown : Option Frame) (pane : Pane ε κ α τ) : Prop where
  free : pane.context.borrowed = false
  raised : pane.context.pending = true → pane.context.queue ≠ []
  waiting : ∃ changes, pane.context.queue = List.map ViewState.changeJob changes
  frame : pane.view.frame = shown

theorem ofConfig_keeps (config : Config) : (ofConfig config : Pane ε κ α τ).Keeps none where
  free := rfl
  raised lowered := nomatch lowered
  waiting := ⟨[], rfl⟩
  frame := rfl

namespace Keeps

variable {shown : Option Frame} {pane : Pane ε κ α τ}

theorem still (keeps : pane.Keeps shown) {next : Pane ε κ α τ} (still : Still pane next) :
    next.Keeps shown where
  free := by rw [still.borrowed, keeps.free]
  raised := by rw [still.pending, still.queue]; exact keeps.raised
  waiting := by rw [still.queue]; exact keeps.waiting
  frame := by rw [still.frame, keeps.frame]

theorem pump (keeps : pane.Keeps shown) : pane.pump.1.Keeps shown := by
  obtain ⟨changes, waiting⟩ := keeps.waiting
  rw [pump_eq keeps.free waiting]
  exact { keeps with
    raised := fun lowered => nomatch lowered
    waiting := ⟨[], rfl⟩
    frame := (ViewState.applyChanges_frame ..).trans keeps.frame }

theorem pump_pump (keeps : pane.Keeps shown) : pane.pump.1.pump.1 = pane.pump.1 := by
  obtain ⟨changes, waiting⟩ := keeps.waiting
  have empty : pane.pump.1.context.queue = [].map ViewState.changeJob := by
    rw [pump_eq keeps.free waiting]
    rfl
  rw [pump_eq keeps.pump.free empty, pump_eq keeps.free waiting]
  rfl

private theorem pump_needsRender (keeps : pane.Keeps shown) (needed : pane.needsRender = true) :
    pane.pump.1.needsRender = true := by
  obtain ⟨changes, waiting⟩ := keeps.waiting
  rw [pump_eq keeps.free waiting]
  cases clean : (pane.view.applyChanges changes).dirty with
  | true => exact clean
  | false =>
    obtain ⟨rfl, before⟩ := ViewState.applyChanges_dirty clean
    -- The flag is raised only while changes wait, and there were none.
    have raised : pane.context.pending = true := by simpa [needsRender, before] using needed
    exact absurd waiting (keeps.raised raised)

/-- A render keeps the frame that it has built. What it comes out with is that frame or the
kept one. -/
theorem render (keeps : pane.Keeps shown) (held : Bool) :
    (pane.render held).1.Keeps ((pane.attempt held).toOption.or shown) ∧
      (pane.render held).2.toOption.or shown = (pane.attempt held).toOption.or shown := by
  have pumped := keeps.pump
  have rendered : pane.render held =
      (pane.pump.1.updateView fun _ => (pane.pump.1.view.takeFrame (pane.attempt held)).1,
        (pane.pump.1.view.takeFrame (pane.attempt held)).2) := rfl
  rw [rendered]
  cases pane.attempt held with
  | ok frame => exact ⟨{ pumped with frame := rfl }, rfl⟩
  | error cause =>
    rw [ViewState.takeFrame_error, pumped.frame]
    refine ⟨pumped, ?_⟩
    cases shown with
    | none => rfl
    | some frame => rfl

end Keeps

theorem Redrawn.pump {shown : Option Frame} {pane other : Pane ε κ α τ}
    (redrawn : Redrawn pane other) (keeps : pane.Keeps shown) :
    Redrawn pane.pump.1 other.pump.1 := by
  obtain ⟨changes, waiting⟩ := keeps.waiting
  obtain ⟨frame, dirty, same⟩ := redrawn
  have free : other.context.borrowed = false := by rw [same]; exact keeps.free
  have waits : other.context.queue = changes.map ViewState.changeJob := by rw [same]; exact waiting
  obtain ⟨last, changed, applied⟩ := pane.view.applyChanges_redrawn frame dirty changes
  refine ⟨last, changed, ?_⟩
  rw [pump_eq free waits, pump_eq keeps.free waiting, same, updateView_view, applied]
  rfl

theorem Redrawn.render {limit : Nat} {shown : Option Frame} {pane other : Pane ε κ α τ}
    (redrawn : Redrawn pane other) (fits : pane.Fits limit) (keeps : pane.Keeps shown) :
    (other.render false).2 = (pane.render false).2 := by
  have others : other.Fits limit := by
    rw [Fits, redrawn.session]
    exact fits
  obtain ⟨frame, built, rendered, -⟩ := fits.render
  obtain ⟨second, again, also, -⟩ := others.render
  rw [(redrawn.pump keeps).build, redrawn.session, built] at again
  rw [also, rendered, again]

variable [Connector κ]

private theorem work_updateView (pane : Pane ε κ α τ) (change : ViewState α → ViewState α)
    (found : Round) :
    ((pane.updateView change).work found).1 = (pane.work found).1.updateView change := by
  obtain ⟨changes, delivered⟩ : ∃ changes : List BufferChange, ∀ pane : Pane ε κ α τ, _ :=
    deliver_eq (pane.session.work found).2
  have here := delivered { pane with session := (pane.session.work found).1 }
  have there := delivered
    { pane.updateView change with session := (pane.session.work found).1 }
  unfold Pane.work
  simp only [updateView] at here there ⊢
  rw [there, here, Presentation.Context.update_submitAll]

theorem Keeps.work {shown : Option Frame} {pane : Pane ε κ α τ} (keeps : pane.Keeps shown)
    (found : Round) : (pane.work found).1.Keeps shown := by
  obtain ⟨changes, worked⟩ := pane.work_eq found
  obtain ⟨before, waiting⟩ := keeps.waiting
  rw [worked]
  exact {
    free := (Presentation.Context.submitAll_borrowed ..).trans keeps.free
    raised := Presentation.Context.submitAll_raised keeps.raised _
    waiting := ⟨before ++ changes, by
      rw [Presentation.Context.submitAll_queue, waiting, List.map_append]⟩
    frame := by
      rw [view, Presentation.Context.submitAll_state]
      exact keeps.frame }

theorem Redrawn.work {pane other : Pane ε κ α τ} (redrawn : Redrawn pane other) (found : Round) :
    Redrawn (pane.work found).1 (other.work found).1 := by
  obtain ⟨frame, dirty, rfl⟩ := redrawn
  exact ⟨frame, dirty, pane.work_updateView _ found⟩

theorem Redrawn.handle {pane other : Pane ε κ α τ} (redrawn : Redrawn pane other)
    (event : Composition.Event) : Redrawn (pane.handle event).1 (other.handle event).1 := by
  obtain ⟨frame, dirty, rfl⟩ := redrawn
  rw [handle_eq, handle_eq]
  let answer := pane.view.input.step (Xterm.encoder pane.session.applicationCursor) event
  obtain ⟨changed, taken⟩ := pane.view.takeInput_redrawn frame dirty answer.1 answer.2.sends
  refine ⟨frame, changed, ?_⟩
  exact congrArg (fun view => (pane.updateView fun _ => view).written (wire answer.2.sends)) taken

variable [Extent α]

/-- The frame that an access builds from the buffer. -/
def built (pane : Pane ε κ α τ) : Access κ α τ → Option Frame
  | .own (.render held) => (pane.attempt held).toOption
  | _ => none

def builtAll (pane : Pane ε κ α τ) : List (Access κ α τ) → List Frame
  | [] => []
  | access :: rest => (pane.built access).toList ++ (pane.grant access).1.builtAll rest

/-- A render becomes the pump that it starts with. -/
def Access.pumped : Access κ α τ → Access κ α τ
  | .own (.render _) => .own .pump
  | access => access

namespace Keeps

variable {shown : Option Frame} {pane : Pane ε κ α τ}

theorem step (keeps : pane.Keeps shown) (call : Call κ α) :
    (pane.step call).1.Keeps ((pane.built (.own call)).or shown) ∧
      (pane.step call).2.or shown = (pane.built (.own call)).or shown := by
  cases call with
  | start connector => exact ⟨keeps.still (start_still pane connector), rfl⟩
  | stop => exact ⟨keeps.still (stop_still pane), rfl⟩
  | setWaker weight => exact ⟨{ keeps with }, rfl⟩
  | output piece => exact ⟨keeps.work { received := .pieces [piece] }, rfl⟩
  | endOutput => exact ⟨keeps.work { received := .ended }, rfl⟩
  | input event => exact ⟨keeps.still (handle_still pane event), rfl⟩
  | sendText text => exact ⟨keeps.still (write_still pane _), rfl⟩
  | drag delta height => exact ⟨{ keeps with }, rfl⟩
  | scrollLines lines => exact ⟨{ keeps with }, rfl⟩
  | scrollToBottom => exact ⟨{ keeps with }, rfl⟩
  | fit width height cellWidth cellHeight =>
    refine ⟨?_, rfl⟩
    have effect := fit_effect pane width height cellWidth cellHeight
    simp only [Pane.step]
    generalize (pane.fit width height cellWidth cellHeight).1 = next at effect ⊢
    cases effect with
    | still _ still => exact keeps.still still
    | resized size connector => exact { keeps with }
  | configure config => exact ⟨{ keeps with }, rfl⟩
  | pump => exact ⟨keeps.pump, rfl⟩
  | render held => exact keeps.render held

theorem grant (keeps : pane.Keeps shown) (access : Access κ α τ) :
    (pane.grant access).1.Keeps ((pane.built access).or shown) ∧
      (pane.grant access).2.or shown = (pane.built access).or shown := by
  cases access with
  | own call => exact keeps.step call
  | work found => exact ⟨keeps.work found, rfl⟩
  | ask request => exact ⟨{ keeps with }, rfl⟩
  | adjust scroll input => exact ⟨{ keeps with }, rfl⟩

/-- The last frame that came out is the last that was built, and it is kept. -/
theorem grantAll (keeps : pane.Keeps shown) (accesses : List (Access κ α τ)) :
    (pane.grantAll accesses).1.Keeps ((pane.builtAll accesses).getLast?.or shown) ∧
      (pane.grantAll accesses).2.getLast?.or shown = (pane.builtAll accesses).getLast?.or shown := by
  induction accesses generalizing pane shown with
  | nil => exact ⟨keeps, rfl⟩
  | cons access rest ih =>
    obtain ⟨granted, shows⟩ := keeps.grant access
    obtain ⟨last, same⟩ := ih granted
    rw [Pane.grantAll, builtAll, newest_or, newest_or, shows]
    exact ⟨last, same⟩

end Keeps

namespace Redrawn

variable {shown : Option Frame} {pane other : Pane ε κ α τ}

theorem grant (redrawn : Redrawn pane other) (keeps : pane.Keeps shown) (access : Access κ α τ) :
    Redrawn (pane.grant access.pumped).1 (other.grant access).1 := by
  have same := redrawn
  obtain ⟨frame, dirty, rfl⟩ := same
  cases access with
  | own call =>
    cases call with
    | start connector => exact ⟨frame, dirty, rfl⟩
    | stop => exact ⟨frame, dirty, rfl⟩
    | setWaker weight => exact ⟨frame, dirty, rfl⟩
    | output piece => exact redrawn.work { received := .pieces [piece] }
    | endOutput => exact redrawn.work { received := .ended }
    | input event => exact redrawn.handle event
    | sendText text => exact ⟨frame, dirty, rfl⟩
    | drag delta height => exact ⟨frame, _, rfl⟩
    | scrollLines lines => exact ⟨frame, _, rfl⟩
    | scrollToBottom => exact ⟨frame, _, rfl⟩
    | fit width height cellWidth cellHeight => exact redrawn.fit width height cellWidth cellHeight
    | configure config => exact ⟨frame, true, rfl⟩
    | pump => exact redrawn.pump keeps
    | render held => exact (redrawn.pump keeps).trans (render_redrawn _ held)
  | work found => exact redrawn.work found
  | ask request => exact ⟨frame, dirty, rfl⟩
  | adjust scroll input => exact ⟨frame, dirty, rfl⟩

/-- It makes no difference to a run which renders get the buffer. -/
theorem grantAll (redrawn : Redrawn pane other) (keeps : pane.Keeps shown)
    (accesses : List (Access κ α τ)) :
    Redrawn (pane.grantAll (accesses.map Access.pumped)).1 (other.grantAll accesses).1 := by
  induction accesses generalizing pane other shown with
  | nil => exact redrawn
  | cons access rest ih => exact ih (redrawn.grant keeps access) (keeps.grant access.pumped).1

end Redrawn

/-- Renders that fail leave to the next one what they have found. -/
theorem pump_after_failures {limit : Nat} {shown : Option Frame} {pane : Pane ε κ α τ}
    (fits : pane.Fits limit) (keeps : pane.Keeps shown) (failures : Nat) :
    (pane.grantAll (List.replicate failures (.own (.render true)))).1.pump.1 = pane.pump.1 := by
  induction failures generalizing pane with
  | zero => rfl
  | succ failures ih =>
    have failed : (pane.render true).1 = pane.pump.1 := by rw [fits.render_held]
    have rest : (pane.grantAll (List.replicate (failures + 1) (.own (.render true)))).1 =
        ((pane.render true).1.grantAll (List.replicate failures (.own (.render true)))).1 := rfl
    have pumped : pane.pump.1.Fits limit := fits
    rw [rest, failed, ih pumped keeps.pump, keeps.pump_pump]

/-- A render fails only if it does not get the buffer and none before it has come out with a
frame. Otherwise the frame that was built last stands in and is kept, and the pane is left as
the pump leaves it, with as much to draw. However many renders have failed, the next that
gets the buffer does what it would have done without them; and it builds the same frame
after any run that differs in nothing but which renders got the buffer or were mere pumps. -/
theorem failed_render_keeps_frame (config : Config) (accesses : List (Access κ α τ)) :
    let start : Pane ε κ α τ := ofConfig config
    let pane := (start.grantAll accesses).1
    let frames := (start.grantAll accesses).2
    let last := (start.builtAll accesses).getLast?
    (∀ held cause, (pane.render held).2 = .error cause → held = true ∧ frames = []) ∧
      pane.render true =
        (pane.pump.1,
          match last with
          | some frame => .ok frame
          | none => .error (.lock .timeout)) ∧
      (pane.render true).1.view.frame = last ∧
      (pane.needsRender = true → (pane.render true).1.needsRender = true) ∧
      (∀ failures,
        (pane.grantAll (List.replicate failures (.own (.render true)))).1.render false =
          pane.render false) ∧
      ∀ other, other.map Access.pumped = accesses.map Access.pumped →
        let twin := (start.grantAll other).1
        twin.session = pane.session ∧ twin.view.scroll = pane.view.scroll ∧
          twin.view.input = pane.view.input ∧ (twin.render false).2 = (pane.render false).2 := by
  intro start pane frames last
  have created : start.Fits config.effectiveScrollback := ofConfig_fits config
  have fits : pane.Fits config.effectiveScrollback := created.grantAll accesses
  obtain ⟨keeps, shows⟩ : pane.Keeps (last.or none) ∧ frames.getLast?.or none = last.or none :=
    (ofConfig_keeps config).grantAll accesses
  rw [Option.or_none] at keeps
  rw [Option.or_none, Option.or_none] at shows
  have failed := fits.render_held
  rw [keeps.pump.frame] at failed
  refine ⟨fun held cause refused => ?_, failed, ?_, fun needed => ?_, fun failures => ?_,
    fun other alike => ?_⟩
  · cases held with
    | false =>
      obtain ⟨frame, -, rendered, -⟩ := fits.render
      rw [rendered] at refused
      cases refused
    | true =>
      rw [failed] at refused
      cases newest : last with
      | some frame =>
        rw [newest] at refused
        cases refused
      | none =>
        rw [newest] at shows
        exact ⟨rfl, List.getLast?_eq_none_iff.mp shows⟩
  · rw [failed]
    exact keeps.pump.frame
  · rw [failed]
    exact keeps.pump_needsRender needed
  · exact render_congr (pump_after_failures fits keeps failures) false
  · let pumped := (start.grantAll (accesses.map Access.pumped)).1
    have base : pumped.Fits config.effectiveScrollback := created.grantAll _
    have fresh : start.Keeps none := ofConfig_keeps config
    have kept := (fresh.grantAll (accesses.map Access.pumped)).1
    have here : Redrawn pumped pane := (Redrawn.refl start).grantAll fresh accesses
    have there : Redrawn pumped (start.grantAll other).1 := by
      have redrawn := (Redrawn.refl start).grantAll fresh other
      rwa [alike] at redrawn
    exact ⟨there.session.trans here.session.symm, there.scroll.trans here.scroll.symm,
      there.input.trans here.input.symm,
      (there.render base kept).trans (here.render base kept).symm⟩

end Pane

end TtyFrame

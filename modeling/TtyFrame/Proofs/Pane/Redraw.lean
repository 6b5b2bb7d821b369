import TtyFrame.Connector.Echo
import TtyFrame.Proofs.Pane.Script
import TtyFrame.Screen.Engine

/-! A pane with nothing to draw shows what it would show now. The last frame is kept as long
as nothing that goes into a frame changes: whatever changes the picture raises the dirty
flag or waits in the queue, and only a frame built from the buffer lowers the flag. -/

set_option autoImplicit false

namespace TtyFrame.Pane

variable {ε κ α τ : Type} [Engine ε]

/-- The last frame that came out is kept, and it is current while nothing waits and nothing
is to be drawn. -/
structure Drawn (pane : Pane ε κ α τ) (shown : Option Frame) : Prop where
  kept : pane.view.frame = shown
  current : pane.context.queue = [] → pane.view.dirty = false →
    ∃ frame, shown = some frame ∧ pane.build (.ok pane.session.view) = .ok frame

theorem Still.build {before after : Pane ε κ α τ} (still : Still before after)
    (clean : after.view.dirty = false) :
    after.build (.ok after.session.view) = before.build (.ok before.session.view) := by
  obtain ⟨-, origin⟩ := still.dirty clean
  simp only [Pane.build, Session.view, still.style, still.size, still.screen, still.palette, origin]

private theorem build_locked (pane : Pane ε κ α τ) (cause : LockError) (frame : Frame) :
    pane.build (.error cause) ≠ .ok frame := by
  unfold build Frame.build
  split
  · exact nofun
  · exact nofun

theorem build_eq (pane : Pane ε κ α τ) (wide : Config.minColumns ≤ pane.session.size.columns)
    (high : Config.minRows ≤ pane.session.size.rows) (buffer : BufferView) :
    pane.build (.ok buffer) =
      .ok (.ofView buffer pane.session.style pane.session.size.columns pane.session.size.rows
        pane.view.scroll.origin pane.palette) := by
  have roomy : ¬ (pane.session.size.columns = 0 ∨ pane.session.size.rows = 0) := by
    simp only [Config.minColumns, Config.minRows] at wide high
    omega
  exact if_neg roomy

theorem newest_or (first shown : Option Frame) (rest : List Frame) :
    (first.toList ++ rest).getLast?.or shown = rest.getLast?.or (first.or shown) := by
  rw [List.getLast?_append, Option.or_assoc]
  cases first with
  | none => rfl
  | some frame => rfl

variable [Scroll.Distance α]

theorem Steady.build_ok {pane : Pane ε κ α τ} (steady : pane.Steady) (buffer : BufferView) :
    ∃ frame, pane.build (.ok buffer) = .ok frame ∧
      frame.origin = Scroll.clampOrigin pane.view.scroll.origin buffer.history :=
  ⟨_, pane.build_eq steady.wide steady.high buffer, rfl⟩

theorem Steady.render_idle {pane : Pane ε κ α τ} (steady : pane.Steady) :
    (pane.render false).1.needsRender = false := by
  obtain ⟨changes, waiting⟩ := steady.waiting
  obtain ⟨frame, built, -⟩ := steady.pump.build_ok pane.pump.1.session.view
  rw [render_eq]
  simp only [Bool.false_eq_true, if_false, built]
  rw [pump_eq steady.free waiting]
  rfl

namespace Drawn

variable {pane : Pane ε κ α τ} {shown : Option Frame}

theorem pump (drawn : Drawn pane shown) (steady : pane.Steady) : Drawn pane.pump.1 shown := by
  obtain ⟨changes, waiting⟩ := steady.waiting
  rw [pump_eq steady.free waiting]
  refine ⟨(ViewState.applyChanges_frame ..).trans drawn.kept, fun _ clean => ?_⟩
  obtain ⟨rfl, before⟩ := ViewState.applyChanges_dirty clean
  exact drawn.current waiting before

theorem render (drawn : Drawn pane shown) (steady : pane.Steady) (held : Bool) :
    Drawn (pane.render held).1 ((pane.render held).2.toOption.or shown) := by
  have pumped := drawn.pump steady
  rw [render_eq]
  generalize buffered : (if held then _ else _) = buffer
  cases built : pane.pump.1.build buffer with
  | ok frame =>
    -- A buffer that is held gives no frame, so this one shows the buffer as it is.
    cases held with
    | true => exact absurd built (buffered ▸ build_locked _ _ frame)
    | false =>
      subst buffered
      exact ⟨rfl, fun _ _ => ⟨frame, rfl, built⟩⟩
  | error cause =>
    rw [ViewState.takeFrame_error, pumped.kept]
    cases shown with
    | none => exact pumped
    | some frame => exact pumped

theorem effect (drawn : Drawn pane shown) (steady : pane.Steady) {call : Call κ α}
    {result : Pane ε κ α τ × Option Frame} (effect : Effect pane call result) :
    Drawn result.1 (result.2.or shown) := by
  cases effect with
  | still _ still =>
    refine ⟨still.frame.trans drawn.kept, fun empty clean => ?_⟩
    rw [still.build clean]
    exact drawn.current (still.queue.symm.trans empty) (still.dirty clean).1
  | read screen exited connector reading told written =>
    obtain ⟨changes, waiting⟩ := steady.waiting
    refine ⟨(congrArg ViewState.frame (readTo_view ..)).trans drawn.kept, fun empty => ?_⟩
    rw [pane.readTo_queue _ _ _ _ waiting, List.map_eq_nil_iff] at empty
    exact absurd empty (List.append_ne_nil_of_right_ne_nil _ (List.cons_ne_nil _ _))
  | resized size connector => exact ⟨drawn.kept, fun _ clean => nomatch clean⟩
  | configured config => exact ⟨drawn.kept, fun _ clean => nomatch clean⟩
  | pumped => exact drawn.pump steady
  | rendered held => exact drawn.render steady held

variable [Connector κ] [Extent α]

theorem follow (drawn : Drawn pane shown) (steady : pane.Steady) (calls : List (Call κ α)) :
    Drawn (pane.follow calls).1 ((pane.follow calls).2.getLast?.or shown) := by
  -- Each call is judged against the frame that had come out before it.
  induction calls generalizing pane shown with
  | nil => exact drawn
  | cons call rest ih =>
    have effect := step_effect steady call
    have followed := ih (drawn.effect steady effect) (steady.effect effect)
    rw [← newest_or] at followed
    exact followed

end Drawn

/-- After any calls, a pane with nothing to draw has come out with a frame before, and its
last one is what its buffer would give at its size, origin, style and palette. And a render
that gets the buffer leaves nothing to draw. -/
theorem idle_frame_current [Connector κ] [Extent α] (config : Config) (calls : List (Call κ α))
    {pane : Pane ε κ α τ} {frames : List Frame}
    (followed : (ofConfig config).follow calls = (pane, frames)) :
    (pane.needsRender = false →
      ∃ frame, frames.getLast? = some frame ∧
        Frame.build (.ok pane.session.view) pane.session.style pane.session.size.columns
          pane.session.size.rows pane.view.scroll.origin pane.palette = .ok frame) ∧
      (pane.render false).1.needsRender = false := by
  have start : (ofConfig config : Pane ε κ α τ).Steady := ofConfig_steady config
  have first : Drawn (ofConfig config : Pane ε κ α τ) none := ⟨rfl, fun _ clean => nomatch clean⟩
  have steady := start.follow calls
  have drawn := first.follow start calls
  rw [followed] at steady drawn
  rw [Option.or_none] at drawn
  refine ⟨fun idle => ?_, steady.render_idle⟩
  obtain ⟨lowered, clean⟩ := Bool.or_eq_false_iff.mp idle
  exact drawn.current (steady.raised lowered) clean

/-- Output comes after a frame, and the buffer is not to be had at first. -/
def lateCalls : List (Call Echo Int) :=
  [.start {}, .render false, .output [0x61, 0x62, 0x0A], .render true, .render false,
    .scrollLines 1]

def late : Pane Screen.State Echo Int Unit × List Frame :=
  (ofConfig { columns := 5, rows := 2 }).follow lateCalls

theorem idle_frame_current_late :
    late.1.needsRender = false ∧
      ∃ frame, late.2.getLast? = some frame ∧
        Frame.build (.ok late.1.session.view) late.1.session.style late.1.session.size.columns
          late.1.session.size.rows late.1.view.scroll.origin late.1.palette = .ok frame := by
  have idle : late.1.needsRender = false := by decide +kernel
  exact ⟨idle, (idle_frame_current { columns := 5, rows := 2 } lateCalls rfl).1 idle⟩

end TtyFrame.Pane

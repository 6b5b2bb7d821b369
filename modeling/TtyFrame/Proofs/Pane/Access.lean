import TtyFrame.Proofs.Frame.Writing
import TtyFrame.Proofs.Pane.Redraw
import TtyFrame.Proofs.Screen.Lawful
import TtyFrame.Proofs.Session.Requests
import TtyFrame.Proofs.Session.Sizes

/-! A pane that gives its session and parts of its view out. Between its own calls the worker
goes on in rounds of any kind, others ask the session for whatever they want, and the scroll
state and the input are changed from outside. The size of the session stays the size of the
screen all the same, and every frame is built in that size. -/

set_option autoImplicit false

namespace TtyFrame.Pane

variable {ε κ α τ : Type} [Engine ε]

/-- The session of a pane fits. -/
abbrev Fits (limit : Nat) (pane : Pane ε κ α τ) : Prop := pane.session.Fits limit

section Frames

variable {limit : Nat} {pane : Pane ε κ α τ}

theorem Fits.build_ok (fits : pane.Fits limit) (buffer : BufferView) :
    ∃ frame, pane.build (.ok buffer) = .ok frame ∧ frame.columns = pane.session.size.columns ∧
      frame.rows = pane.session.size.rows ∧
      frame.cells.size = pane.session.size.columns * pane.session.size.rows := by
  refine ⟨_, pane.build_eq fits.wide fits.high buffer, rfl, rfl, ?_⟩
  rw [Frame.ofView, size_foldl_writeRun, Array.size_replicate]

theorem Fits.build_error (fits : pane.Fits limit) (cause : LockError) :
    pane.build (.error cause) = .error (.lock cause) := by
  have wide := fits.wide
  have high := fits.high
  unfold build Frame.build
  rw [if_neg]
  simp only [Config.minColumns, Config.minRows] at wide high
  omega

theorem Fits.render (fits : pane.Fits limit) :
    ∃ frame, pane.pump.1.build (.ok pane.session.view) = .ok frame ∧
      (pane.render false).2 = .ok frame ∧ frame.columns = pane.session.size.columns ∧
        frame.rows = pane.session.size.rows ∧
        frame.cells.size = pane.session.size.columns * pane.session.size.rows := by
  have pumped : pane.pump.1.Fits limit := fits
  obtain ⟨frame, built, sized⟩ := pumped.build_ok pane.session.view
  refine ⟨frame, built, ?_, sized⟩
  have taken : (pane.render false).2 =
      (pane.pump.1.view.takeFrame (pane.pump.1.build (.ok pane.session.view))).2 := rfl
  rw [taken, built]
  rfl

/-- While the buffer is held, the frame that is there stands in. -/
theorem Fits.render_held (fits : pane.Fits limit) :
    pane.render true =
      (pane.pump.1,
        match pane.pump.1.view.frame with
        | some frame => .ok frame
        | none => .error (.lock .timeout)) := by
  have pumped : pane.pump.1.Fits limit := fits
  have refused : pane.pump.1.build (.error .timeout) = .error (.lock .timeout) :=
    pumped.build_error .timeout
  have taken : pane.render true =
      (pane.pump.1.updateView fun _ =>
        (pane.pump.1.view.takeFrame (pane.pump.1.build (.error .timeout))).1,
        (pane.pump.1.view.takeFrame (pane.pump.1.build (.error .timeout))).2) := rfl
  rw [taken, refused, ViewState.takeFrame_error]
  rfl

theorem Fits.render_proper (fits : pane.Fits limit) (held : Bool) (columns rows : Nat) :
    (pane.render held).2 ≠ .error (.invalidDimensions columns rows) := by
  intro refused
  cases held with
  | false =>
    obtain ⟨frame, -, rendered, -⟩ := fits.render
    rw [rendered] at refused
    cases refused
  | true =>
    rw [fits.render_held] at refused
    cases stored : pane.pump.1.view.frame with
    | some frame =>
      rw [stored] at refused
      cases refused
    | none =>
      rw [stored] at refused
      cases refused

end Frames

section Fitting

variable [Connector κ] [Extent α] (pane : Pane ε κ α τ) (width height cellWidth cellHeight : α)

theorem fit_size :
    (pane.fit width height cellWidth cellHeight).1.session.size =
      (pane.fit width height cellWidth cellHeight).2 := by
  unfold fit
  split
  · rfl
  · dsimp only
    split
    · next same => exact same.symm
    · exact (Session.resize_size ..).trans (Size.clamped_clamped _)

theorem Fits.fit {limit : Nat} {pane : Pane ε κ α τ} (fits : pane.Fits limit) :
    (pane.fit width height cellWidth cellHeight).1.Fits limit := by
  unfold Pane.fit
  split
  · exact fits
  · dsimp only
    split
    · exact fits
    · exact Session.Fits.resize fits _

end Fitting

section Delivery

variable [Scroll.Distance α]

/-- All that reaches a pane of what the listeners are told are jobs for the view. -/
theorem deliver_eq (told : List (Listener τ × BufferChange)) :
    ∃ changes : List BufferChange, ∀ pane : Pane ε κ α τ,
      (pane.deliver told).1 =
        { pane with context := pane.context.submitAll (changes.map ViewState.changeJob) } := by
  induction told with
  | nil => exact ⟨[], fun pane => rfl⟩
  | cons head rest ih =>
    obtain ⟨changes, delivered⟩ := ih
    obtain ⟨listener, change⟩ := head
    cases listener with
    | view =>
      refine ⟨change :: changes, fun pane => ?_⟩
      rw [deliver, delivered]
      rfl
    | guest tag => exact ⟨changes, delivered⟩

theorem ofConfig_fits (config : Config) :
    (ofConfig config : Pane ε κ α τ).Fits config.effectiveScrollback :=
  Session.Fits.of_eq (Session.ofConfig_fits config) rfl rfl

/-- A round changes the session, and lets the view know. -/
theorem work_eq [Connector κ] (pane : Pane ε κ α τ) (found : Round) :
    ∃ changes : List BufferChange,
      (pane.work found).1 =
        { pane with
          session := (pane.session.work found).1
          context := pane.context.submitAll (changes.map ViewState.changeJob) } := by
  obtain ⟨changes, delivered⟩ : ∃ changes : List BufferChange, ∀ pane : Pane ε κ α τ, _ :=
    deliver_eq (pane.session.work found).2
  exact ⟨changes, delivered { pane with session := (pane.session.work found).1 }⟩

theorem Fits.work [Connector κ] {limit : Nat} {pane : Pane ε κ α τ} (fits : pane.Fits limit)
    (found : Round) : (pane.work found).1.Fits limit := by
  obtain ⟨changes, worked⟩ := pane.work_eq found
  rw [worked]
  exact Session.Fits.work fits found

end Delivery

/-- What can happen to a pane. -/
inductive Access (κ α τ : Type) where
  | own (call : Call κ α)
  | work (found : Round)
  | ask (request : Session.Request κ (Listener τ))
  | adjust (scroll : Scroll.State α) (input : Composition.Session)

variable [Scroll.Distance α] [Connector κ] [Extent α]

/-- Goes through with an access and gives the frame that a render has come out with. -/
def grant (pane : Pane ε κ α τ) : Access κ α τ → Pane ε κ α τ × Option Frame
  | .own call => pane.step call
  | .work found => ((pane.work found).1, none)
  | .ask request => ({ pane with session := pane.session.serve request }, none)
  | .adjust scroll input => (pane.updateView fun view => { view with scroll, input }, none)

def grantAll (pane : Pane ε κ α τ) : List (Access κ α τ) → Pane ε κ α τ × List Frame
  | [] => (pane, [])
  | access :: rest =>
    let (next, rendered) := pane.grant access
    let (last, frames) := next.grantAll rest
    (last, rendered.toList ++ frames)

variable {limit : Nat} {pane : Pane ε κ α τ}

theorem Fits.step (fits : pane.Fits limit) (call : Call κ α) : (pane.step call).1.Fits limit := by
  cases call with
  | start connector => exact Session.Fits.start fits connector
  | stop => exact Session.Fits.of_eq fits rfl rfl
  | setWaker weight => exact fits
  | output piece => exact fits.work { received := .pieces [piece] }
  | endOutput => exact fits.work { received := .ended }
  | input event =>
    have still := handle_still pane event
    exact Session.Fits.of_eq fits still.size still.screen
  | sendText text => exact Session.Fits.send fits _
  | drag delta height => exact fits
  | scrollLines lines => exact fits
  | scrollToBottom => exact fits
  | fit width height cellWidth cellHeight => exact fits.fit width height cellWidth cellHeight
  | configure config => exact Session.Fits.of_eq fits rfl rfl
  | pump => exact fits
  | render held => exact fits

theorem Fits.follow (fits : pane.Fits limit) (calls : List (Call κ α)) :
    (pane.follow calls).1.Fits limit := by
  induction calls generalizing pane with
  | nil => exact fits
  | cons call rest ih => exact ih (fits.step call)

theorem Fits.grant (fits : pane.Fits limit) (access : Access κ α τ) :
    (pane.grant access).1.Fits limit := by
  cases access with
  | own call => exact fits.step call
  | work found => exact fits.work found
  | ask request => exact Session.Fits.serve fits request
  | adjust scroll input => exact fits

theorem Fits.grantAll (fits : pane.Fits limit) (accesses : List (Access κ α τ)) :
    (pane.grantAll accesses).1.Fits limit := by
  induction accesses generalizing pane with
  | nil => exact fits
  | cons access rest ih => exact ih (fits.grant access)

/-- Whatever has happened to a pane, its session is at least five columns wide and two rows
high, and the screen is of the same size. Fitting the grid into an area, of single-precision
or any other pixels, gives the size that the session has from then on. A render that gets
the buffer comes out with a frame of just that size, and none is ever refused for its size. -/
theorem granted_size (config : Config) (accesses : List (Access κ α τ)) :
    let pane := ((ofConfig config : Pane Screen.State κ α τ).grantAll accesses).1
    let size := pane.session.size
    (5 ≤ size.columns ∧ 2 ≤ size.rows) ∧
      (pane.session.screen.columns = size.columns ∧ pane.session.screen.lines = size.rows ∧
        pane.session.screen.grid.screen.size = size.rows) ∧
      (∀ width height cellWidth cellHeight,
        (pane.fit width height cellWidth cellHeight).1.session.size =
          (pane.fit width height cellWidth cellHeight).2) ∧
      (∃ frame, (pane.render false).2 = .ok frame ∧
        frame.columns = size.columns ∧ frame.rows = size.rows ∧
          frame.cells.size = size.columns * size.rows) ∧
      ∀ held, (pane.render held).1.session.size = size ∧
        ∀ columns rows, (pane.render held).2 ≠ .error (.invalidDimensions columns rows) := by
  intro pane size
  have fits : pane.Fits config.effectiveScrollback := (ofConfig_fits config).grantAll accesses
  have shaped := Engine.Reached.shaped fits
  obtain ⟨frame, -, rendered, sized⟩ := fits.render
  exact ⟨⟨fits.wide, fits.high⟩, ⟨fits.columns, fits.lines, shaped.grid.full⟩,
    fit_size pane, ⟨frame, rendered, sized⟩, fun held => ⟨rfl, fits.render_proper held⟩⟩

end TtyFrame.Pane

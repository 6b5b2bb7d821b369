import TtyFrame.Pane.Counted
import TtyFrame.Proofs.Composition.Counted
import TtyFrame.Proofs.Pane.Limit
import TtyFrame.Proofs.Screen.Feeding
import TtyFrame.Proofs.Screen.Framed

/-! A pane with machine words against one with unbounded numbers. Only the keys of a deletion
can stop it: every other event ends as `handle` has it, and a grid of a size that panes have
is drawn as `render` has it. How the output is cut into pieces does not show on the screen. -/

set_option autoImplicit false

namespace TtyFrame

namespace Session

/-! ## Output in pieces -/

theorem pieces_flatten (bytes : List UInt8) : (pieces bytes).flatten = bytes := by
  induction bytes using pieces.induct with
  | case1 bytes empty =>
      rw [pieces, if_pos empty, List.isEmpty_iff.mp empty]
      rfl
  | case2 bytes some ih =>
      rw [pieces, if_neg some, List.flatten_cons, ih, List.take_append_drop]

/-- No read is empty, and none takes more than it can. -/
theorem length_of_mem_pieces (bytes : List UInt8) :
    ∀ piece ∈ pieces bytes, 0 < piece.length ∧ piece.length ≤ readSize := by
  induction bytes using pieces.induct with
  | case1 bytes empty =>
      rw [pieces, if_pos empty]
      exact nofun
  | case2 bytes some ih =>
      have filled : 0 < bytes.length := List.length_pos_iff.mpr (by simpa using some)
      rw [pieces, if_neg some]
      intro piece member
      rcases List.mem_cons.mp member with rfl | later
      · rw [List.length_take]
        unfold readSize
        omega
      · exact ih piece later

end Session

namespace Pane

variable {ε κ α τ : Type} [Engine ε]

/-! ## Frames -/

theorem renderCounted_of_built {pane : Pane Screen.State κ α τ} {held : Bool}
    {built : Except RenderError Frame}
    (drawn : pane.pump.1.buildCounted
      (if held then .error .timeout else .ok pane.pump.1.session.screen.counted) = .ok built) :
    pane.renderCounted held =
      .ok (pane.pump.1.updateView fun _ => (pane.pump.1.view.takeFrame built).1,
        (pane.pump.1.view.takeFrame built).2) := by
  unfold renderCounted
  revert drawn
  rcases pane.pump with ⟨pumped, count⟩
  intro drawn
  dsimp only at drawn ⊢
  rw [drawn]
  rfl

/-- A grid whose cells have room, and whose lines have numbers, is drawn as it is with
unbounded numbers. -/
theorem Fits.renderCounted_eq {pane : Pane Screen.State κ α τ} {limit : Nat}
    (fits : pane.Fits limit)
    (small : pane.session.size.columns * pane.session.size.rows * Cell.width ≤ Word.largestSize)
    (numbered : limit + pane.session.size.rows ≤ Scroll.maxReach) (held : Bool) :
    pane.renderCounted held = .ok (pane.render held) := by
  have wide : 0 < pane.session.size.columns := Nat.lt_of_lt_of_le (by decide) fits.wide
  have high : 0 < pane.session.size.rows := Nat.lt_of_lt_of_le (by decide) fits.high
  have few : pane.session.size.columns * pane.session.size.rows ≤ Word.largest := by
    unfold Cell.width Word.largestSize at small
    unfold Word.largest
    omega
  rw [render_eq]
  refine renderCounted_of_built ?_
  cases held with
  | true =>
      have refused : pane.pump.1.build (.error .timeout) = .error (.lock .timeout) :=
        Fits.build_error fits .timeout
      exact (Word.buildCounted_lock _ _ _ _ wide high few small _).trans
        (congrArg Except.ok refused.symm)
  | false =>
      have history : pane.session.screen.grid.history.size ≤ limit := fits.history_le
      have lines : pane.session.screen.lines = pane.session.size.rows := fits.lines
      have columns : pane.session.screen.columns = pane.session.size.columns := fits.columns
      have inWord : pane.session.screen.columns ≤ Word.largest := by
        rw [columns]
        exact Nat.le_trans (Nat.le_mul_of_pos_right _ high) few
      have rectangular := Engine.Reached.rectangular fits
      exact Screen.State.buildCounted_view rectangular inWord (by omega) _ _ wide high few small
        _ _

variable [Scroll.Distance α] [Connector κ]

/-! ## Input -/

/-- Only a deletion whose keys have no room is not handled. -/
theorem handleCounted_eq {pane : Pane ε κ α τ} (whole : pane.view.input.Whole)
    {event : Composition.Event} (inWord : event.count ≤ Word.largest) :
    let keys := pane.view.input.keysLeft event
    pane.handleCounted event =
      if Word.largest < keys then .error .overflow
      else if Word.largestSize < keys * Composition.Outgoing.width then .error .capacity
      else .ok (pane.handle event) := by
  dsimp only
  rw [handleCounted, Composition.Session.stepCounted_eq whole _ _ inWord]
  split
  · rfl
  · split <;> rfl

/-! ## Output -/

theorem readPieces_screen (pieces : List (List UInt8)) {pane : Pane Screen.State κ α τ}
    {worker : Worker Screen.State} (running : pane.session.worker = some worker)
    (reading : worker.done = false) :
    let taken := Screen.takeBytes worker.stream pane.session.screen pieces.flatten
    ∃ next, (pane.readPieces pieces).1.session.worker = some next ∧ next.done = false ∧
      next.stream = taken.1 ∧ (pane.readPieces pieces).1.session.screen = taken.2.1 := by
  induction pieces generalizing pane worker with
  | nil => exact ⟨worker, running, reading, rfl, rfl⟩
  | cons piece rest ih =>
      let applied := (Progress.apply { worker, screen := pane.session.screen } piece).announce
      have round : Progress.round { worker, screen := pane.session.screen }
          { received := .pieces [piece] } = applied := by
        simp [applied, Progress.round, reading, Progress.receive]
      obtain ⟨exited, connector, worked⟩ :=
        Session.work_cases running { received := .pieces [piece] }
      rw [round] at worked
      have session := (pane.output_session piece).trans (congrArg Prod.fst worked)
      have still : applied.worker.done = false := reading
      obtain ⟨next, last, open', stream, screen⟩ := ih (congrArg Session.worker session) still
      have split := Screen.takeBytes_append worker.stream pane.session.screen piece rest.flatten
      have screens : (pane.output piece).1.session.screen = applied.screen :=
        congrArg Session.screen session
      rw [screens] at stream screen
      exact ⟨next, last, open', stream.trans (congrArg Prod.fst split).symm,
        screen.trans (congrArg Prod.snd split).symm⟩

/-- A session that reads takes output as one piece, in whatever pieces it is read. -/
theorem read_screen {pane : Pane Screen.State κ α τ} {worker : Worker Screen.State}
    (running : pane.session.worker = some worker) (reading : worker.done = false)
    (bytes : List UInt8) :
    let taken := Screen.takeBytes worker.stream pane.session.screen bytes
    ∃ next, (pane.read bytes).1.session.worker = some next ∧ next.done = false ∧
      next.stream = taken.1 ∧ (pane.read bytes).1.session.screen = taken.2.1 := by
  have read := readPieces_screen (Session.pieces bytes) running reading
  rwa [Session.pieces_flatten] at read

end Pane

end TtyFrame

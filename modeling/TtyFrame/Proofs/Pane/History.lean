import TtyFrame.Connector.Echo
import TtyFrame.Proofs.Pane.Access
import TtyFrame.Proofs.Screen.Lawful

/-! What a view knows of the buffer it scrolls. After a pump it knows which screen is on, and
how long the history was when output was last read. A resize can make the history longer or
shorter, and the view is not told. The history never gets so long that a view could not
scroll to all of it. -/

set_option autoImplicit false

namespace TtyFrame

namespace ViewState

variable {α : Type} [Scroll.Distance α]

private theorem applyChanges_congr {first second : ViewState α}
    (history : first.scroll.history = second.scroll.history)
    (alternate : first.scroll.alternate = second.scroll.alternate) (changes : List BufferChange) :
    (first.applyChanges changes).scroll.history = (second.applyChanges changes).scroll.history ∧
      (first.applyChanges changes).scroll.alternate =
        (second.applyChanges changes).scroll.alternate := by
  induction changes generalizing first second with
  | nil => exact ⟨history, alternate⟩
  | cons change rest ih => exact ih rfl rfl

end ViewState

namespace Pane

variable {ε κ α τ : Type} [Engine ε]

variable [Scroll.Distance α]

theorem pump_view {pane : Pane ε κ α τ} (steady : pane.Steady) {changes : List BufferChange}
    (waiting : pane.context.queue = changes.map ViewState.changeJob) :
    pane.pump.1.view = pane.view.applyChanges changes := by
  rw [pump_eq steady.free waiting]
  rfl

private theorem pump_view_of_empty {pane : Pane ε κ α τ} (steady : pane.Steady)
    (empty : pane.context.queue = []) : pane.pump.1.view = pane.view := by
  rw [pump_eq steady.free (empty.trans List.map_nil.symm)]
  rfl

theorem pump_queue {pane : Pane ε κ α τ} (steady : pane.Steady) : pane.pump.1.context.queue = [] :=
  (Presentation.Context.drain_settles steady.free).1

/-- After a pump, the view knows of a history of a length and of the screen that is on. -/
structure Knows (pane : Pane ε κ α τ) (history : Nat) : Prop where
  history : pane.pump.1.view.scroll.history = history
  alternate : pane.pump.1.view.scroll.alternate = pane.session.view.alternate

namespace Knows

variable {pane : Pane ε κ α τ} {history : Nat}

theorem same (knows : pane.Knows history) (steady : pane.Steady) {next : Pane ε κ α τ}
    (later : next.Steady) (queue : next.context.queue = pane.context.queue)
    (lines : next.view.scroll.history = pane.view.scroll.history)
    (screen : next.view.scroll.alternate = pane.view.scroll.alternate)
    (shown : next.session.view.alternate = pane.session.view.alternate) : next.Knows history := by
  -- Both panes take the same changes over, so only what they start from could differ.
  obtain ⟨changes, waiting⟩ := steady.waiting
  obtain ⟨counted, switched⟩ := ViewState.applyChanges_congr lines screen changes
  have before := pump_view steady waiting
  have after := pump_view later (queue.trans waiting)
  constructor
  · rw [after, counted, ← before, knows.history]
  · rw [after, switched, ← before, knows.alternate, shown]

theorem pump (knows : pane.Knows history) (steady : pane.Steady) : pane.pump.1.Knows history := by
  have still := pump_view_of_empty steady.pump (pump_queue steady)
  constructor
  · rw [still]
    exact knows.history
  · rw [still]
    exact knows.alternate

theorem effect [Engine.Lawful ε] (knows : pane.Knows history) (steady : pane.Steady)
    {call : Call κ α} {result : Pane ε κ α τ × Option Frame} (effect : Effect pane call result) :
    result.1.Knows (if pane.isRead call then result.1.session.view.history else history) := by
  have later := steady.effect effect
  cases effect with
  | still unread still =>
    rw [unread]
    exact knows.same steady later still.queue still.history still.alternate
      (congrArg (fun screen => (Engine.view screen).alternate) still.screen)
  | read screen exited connector reading told written =>
    obtain ⟨changes, waiting⟩ := steady.waiting
    have told := pump_view later (pane.readTo_queue _ _ _ _ waiting)
    rw [ViewState.applyChanges_append] at told
    rw [if_pos (show pane.isRead (.output _) = true from reading)]
    constructor
    · rw [told]
      rfl
    · rw [told]
      rfl
  | resized size connector =>
    exact knows.same steady later rfl rfl rfl (Engine.Lawful.resize_alternate ..)
  | configured config => exact knows.same steady later rfl rfl rfl rfl
  | pumped => exact knows.pump steady
  | rendered held =>
    have kept := pane.render_scroll held
    exact (knows.pump steady).same steady.pump later rfl (congrArg (·.history) kept)
      (congrArg (·.alternate) kept) rfl

end Knows

/-- A render that gets the buffer scrolls to where the view is, as far as the history goes. -/
theorem Steady.render_origin {pane : Pane ε κ α τ} (steady : pane.Steady) :
    ∃ frame, (pane.render false).2 = .ok frame ∧
      frame.origin =
        Scroll.clampOrigin pane.pump.1.view.scroll.origin pane.session.view.history := by
  obtain ⟨frame, built, origin⟩ := steady.pump.build_ok pane.pump.1.session.view
  refine ⟨frame, ?_, origin⟩
  rw [render_eq]
  simp only [Bool.false_eq_true, if_false, built]
  rfl

/-- The view and the buffer agree. -/
structure Agrees (pane : Pane ε κ α τ) : Prop where
  history : pane.view.scroll.history = pane.session.view.history
  alternate : pane.view.scroll.alternate = pane.session.view.alternate
  origin : ∀ frame, (pane.render false).2 = .ok frame → frame.origin = pane.view.scroll.origin

/-- What a call that scrolls answers is what can be seen: it says that the view has moved
exactly if a frame after it starts at another line than one before it. -/
def Shows (before : Pane ε κ α τ) (after : Pane ε κ α τ × Bool) : Prop :=
  ∃ first second, (before.render false).2 = .ok first ∧ (after.1.render false).2 = .ok second ∧
    (after.2 = true ↔ second.origin ≠ first.origin)

/-- Scrolling reaches every line of the history, and can be seen. -/
structure Scrolls (pane : Pane ε κ α τ) : Prop where
  reach : ∀ line : Int, -(pane.session.view.history : Int) ≤ line → line ≤ 0 →
    ∃ lines frame, ((pane.scrollLines lines).1.render false).2 = .ok frame ∧ frame.origin = line
  lines : ∀ lines, pane.Shows (pane.scrollLines lines)
  drag : ∀ delta height, pane.Shows (pane.drag delta height)

section Agreeing

variable {pane : Pane ε κ α τ}

private theorem Steady.agrees (steady : pane.Steady) (empty : pane.context.queue = [])
    (history : pane.view.scroll.history = pane.session.view.history)
    (alternate : pane.view.scroll.alternate = pane.session.view.alternate) : pane.Agrees where
  history := history
  alternate := alternate
  origin frame rendered := by
    obtain ⟨built, ok, origin⟩ := steady.render_origin
    obtain rfl := Except.ok.inj (ok.symm.trans rendered)
    rw [origin, pump_view_of_empty steady empty, ← history, steady.inRange.clampOrigin_eq]

theorem Agrees.render (agrees : pane.Agrees) (steady : pane.Steady) :
    ∃ frame, (pane.render false).2 = .ok frame ∧ frame.origin = pane.view.scroll.origin := by
  obtain ⟨frame, rendered, -⟩ := steady.render_origin
  exact ⟨frame, rendered, agrees.origin frame rendered⟩

theorem Agrees.scrolled (agrees : pane.Agrees) (steady : pane.Steady)
    (empty : pane.context.queue = []) (move : Scroll.State α → Scroll.State α × Bool)
    (moves : Scroll.State.Moves pane.view.scroll (move pane.view.scroll)) :
    (∃ frame, ((pane.scrollWith move).1.render false).2 = .ok frame ∧
        frame.origin = (move pane.view.scroll).1.origin) ∧
      pane.Shows (pane.scrollWith move) := by
  have still := Still.scrolled pane move moves
  have later := steady.still still
  have agreed : (pane.scrollWith move).1.Agrees :=
    later.agrees (still.queue.trans empty) (still.history.trans agrees.history)
      (still.alternate.trans agrees.alternate)
  obtain ⟨first, shown, here⟩ := agrees.render steady
  obtain ⟨second, shownLater, there⟩ := agreed.render later
  refine ⟨⟨second, shownLater, there⟩, first, second, shown, shownLater, ?_⟩
  rw [here, there]
  exact moves.moved

theorem Agrees.scrolls [Engine.Lawful ε] (agrees : pane.Agrees) (steady : pane.Steady)
    (empty : pane.context.queue = []) {limit : Nat} (fits : pane.Fits limit)
    (short : limit ≤ Scroll.maxReach) : pane.Scrolls where
  reach line least most := by
    have kept := fits.history_le
    have bare := fits.history_alternate
    rw [← agrees.history] at least kept bare
    rw [← agrees.alternate] at bare
    obtain ⟨⟨frame, rendered, origin⟩, -⟩ := agrees.scrolled steady empty
      (·.scrollLines (pane.view.scroll.origin - line)) (Scroll.State.scrollLines_moves _ _)
    refine ⟨_, frame, rendered, origin.trans ?_⟩
    exact Scroll.State.scrollLines_reach steady.inRange bare (Nat.le_trans kept short) least most
  lines lines :=
    (agrees.scrolled steady empty _ (Scroll.State.scrollLines_moves _ lines)).2
  drag delta height :=
    (agrees.scrolled steady empty _ (Scroll.State.drag_moves _ delta height)).2

end Agreeing

variable [Connector κ] [Extent α]

/-- How long the history was when output was last read. -/
def heard (pane : Pane ε κ α τ) (before : Nat) : List (Call κ α) → Nat
  | [] => before
  | call :: rest =>
    heard (pane.step call).1
      (if pane.isRead call then (pane.step call).1.session.view.history else before) rest

theorem Knows.follow [Engine.Lawful ε] {pane : Pane ε κ α τ} {history : Nat}
    (knows : pane.Knows history) (steady : pane.Steady) (calls : List (Call κ α)) :
    (pane.follow calls).1.Knows (heard pane history calls) := by
  induction calls generalizing pane history with
  | nil => exact knows
  | cons call rest ih =>
    have effect := step_effect steady call
    exact ih (knows.effect steady effect) (steady.effect effect)

/-- As long as nobody resizes, the history is as long as it was when output was last read. -/
theorem heard_eq {pane : Pane ε κ α τ} (steady : pane.Steady) (calls : List (Call κ α))
    (sized : ∀ width height cellWidth cellHeight,
      Call.fit width height cellWidth cellHeight ∉ calls) :
    heard pane pane.session.view.history calls = (pane.follow calls).1.session.view.history := by
  induction calls generalizing pane with
  | nil => rfl
  | cons call rest ih =>
    have effect := step_effect steady call
    have later := ih (steady.effect effect) fun _ _ _ _ member =>
      sized _ _ _ _ (List.mem_cons_of_mem _ member)
    have same : (if pane.isRead call then (pane.step call).1.session.view.history
        else pane.session.view.history) = (pane.step call).1.session.view.history := by
      split
      · rfl
      · next unread =>
        -- Of what is no read, only a resize touches the screen.
        generalize pane.step call = result at effect
        cases effect with
        | still _ still =>
          exact congrArg (fun screen => (Engine.view screen).history) still.screen.symm
        | read _ _ _ reading => exact absurd reading unread
        | resized => exact absurd List.mem_cons_self (sized _ _ _ _)
        | configured => rfl
        | pumped => rfl
        | rendered => rfl
    rw [heard, same]
    exact later

/-- After any calls and a pump, the view and the buffer agree exactly if the history is as
long as it was when output was last read. They agree on the screen that is on in any case.
Where they agree scrolling reaches every line and can be seen, and without a resize they
agree. -/
theorem pumped_agrees_iff [Engine.Lawful ε] (config : Config) (calls : List (Call κ α))
    {pane : Pane ε κ α τ} {frames : List Frame}
    (followed : (ofConfig config).follow calls = (pane, frames)) :
    (pane.pump.1.Agrees ↔
        heard (ofConfig config : Pane ε κ α τ) 0 calls = pane.session.view.history) ∧
      pane.pump.1.view.scroll.alternate = pane.session.view.alternate ∧
      (pane.pump.1.Agrees → pane.pump.1.Scrolls) ∧
      ((∀ width height cellWidth cellHeight,
          Call.fit width height cellWidth cellHeight ∉ calls) → pane.pump.1.Agrees) := by
  have start : (ofConfig config : Pane ε κ α τ).Steady := ofConfig_steady config
  have first : (ofConfig config : Pane ε κ α τ).Knows 0 :=
    ⟨rfl, (Engine.Lawful.blank_alternate ..).symm⟩
  have steady := start.follow calls
  have knows := first.follow start calls
  have created : (ofConfig config : Pane ε κ α τ).Fits config.effectiveScrollback :=
    ofConfig_fits config
  have fits := created.follow calls
  have empty : (ofConfig config : Pane ε κ α τ).session.view.history = 0 :=
    Engine.Lawful.blank_history ..
  have unsized := heard_eq start calls
  rw [empty] at unsized
  rw [followed] at steady knows fits unsized
  have drained := pump_queue steady
  have agreed (same : heard (ofConfig config : Pane ε κ α τ) 0 calls = pane.session.view.history) :
      pane.pump.1.Agrees :=
    steady.pump.agrees drained (knows.history.trans same) knows.alternate
  refine ⟨⟨fun agrees => ?_, agreed⟩, knows.alternate, fun agrees => ?_, fun sized => ?_⟩
  · exact knows.history.symm.trans agrees.history
  · have short : config.effectiveScrollback ≤ Scroll.maxReach :=
      Nat.le_trans (Nat.min_le_right ..) (by decide)
    exact agrees.scrolls steady.pump drained fits short
  · exact agreed (unsized sized)

/-- Two lines have left the screen, and the view is at the first of them. -/
def scrolledCalls : List (Call Echo Int) :=
  [.start {}, .output [0x0A, 0x0A, 0x0A], .pump, .scrollLines 2]

def scrolledBack : Pane Screen.State Echo Int Unit :=
  ((ofConfig { columns := 5, rows := 2 }).follow scrolledCalls).1

theorem pumped_agrees_scrolled_back :
    scrolledBack.session.view.history = 2 ∧ scrolledBack.pump.1.Agrees ∧
      scrolledBack.pump.1.Scrolls := by
  have counted : heard (ofConfig { columns := 5, rows := 2 } : Pane Screen.State Echo Int Unit) 0
      scrolledCalls = scrolledBack.session.view.history := by decide +kernel
  obtain ⟨agrees, -, scrolls, -⟩ :=
    pumped_agrees_iff { columns := 5, rows := 2 } scrolledCalls
      (show (ofConfig { columns := 5, rows := 2 } : Pane Screen.State Echo Int Unit).follow
        scrolledCalls = (scrolledBack, _) from rfl)
  have agreed := agrees.mpr counted
  exact ⟨by decide +kernel, agreed, scrolls agreed⟩

/-- A grid that gets two lines more takes them out of the history, and the view is not told:
it stays where there is no line any more. -/
theorem grown_grid_unheard :
    ¬ ∀ (config : Config) (calls : List (Call Echo Int)),
        ((ofConfig config : Pane Screen.State Echo Int Unit).follow calls).1.pump.1.Agrees := by
  intro claimed
  have agreed :=
    (claimed { columns := 5, rows := 2 } (scrolledCalls ++ [.fit 5 4 1 1])).history
  revert agreed
  decide +kernel

end Pane

end TtyFrame

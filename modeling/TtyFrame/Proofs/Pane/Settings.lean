import TtyFrame.Connector.Echo
import TtyFrame.Proofs.Composition.Script
import TtyFrame.Proofs.Pane.Fallback

/-! The settings that are in force. Once a pane has taken settings over, the palette, the
default style, the direction of drags and the composition strategy are theirs, and stay so
until somebody asks for others. Nothing is left of the settings before, so the next frame is
the one that a new pane would build from the same buffer. -/

set_option autoImplicit false

namespace TtyFrame

namespace ViewState

variable {α : Type} [Scroll.Distance α]

private theorem applyChanges_reverse (view : ViewState α) (changes : List BufferChange) :
    (view.applyChanges changes).scroll.reverse = view.scroll.reverse := by
  induction changes generalizing view with
  | nil => rfl
  | cons change rest ih =>
    exact (ih (view.applyChange change)).trans (view.scroll.setAlternate_reverse change.alternate)

private theorem applyChanges_input (view : ViewState α) (changes : List BufferChange) :
    (view.applyChanges changes).input = view.input := by
  induction changes generalizing view with
  | nil => rfl
  | cons change rest ih => exact ih (view.applyChange change)

private theorem takeInput_reverse (view : ViewState α) (input : Composition.Session)
    (sends : List Composition.Outgoing) :
    (view.takeInput input sends).scroll.reverse = view.scroll.reverse := by
  unfold takeInput
  split <;> rfl

omit [Scroll.Distance α] in
private theorem takeFrame_input (view : ViewState α) (built : Except RenderError Frame) :
    (view.takeFrame built).1.input = view.input := by
  cases built with
  | ok frame => rfl
  | error cause => rw [takeFrame_error]

end ViewState

namespace Pane

variable {ε κ α τ : Type} [Engine ε]

/-- The settings that are in force in a pane, as far as they are asked for after it is
created. -/
structure SetTo (config : Config) (pane : Pane ε κ α τ) : Prop where
  colors : pane.palette = config.colors
  style : pane.session.style = .ofConfig config
  reverse : pane.view.scroll.reverse = config.scrollReverse
  strategy : pane.view.input.strategy = config.composition

/-- The access asks for these settings or for none. -/
def Access.Suits (config : Config) : Access κ α τ → Prop
  | .own (.configure other) => other = config
  | .own (.input (.setStrategy strategy)) => strategy = config.composition
  | .ask (.restyle style) => style = .ofConfig config
  | .adjust scroll input =>
    scroll.reverse = config.scrollReverse ∧ input.strategy = config.composition
  | _ => True

theorem configure_setTo (pane : Pane ε κ α τ) (config : Config) :
    (pane.configure config).SetTo config where
  colors := rfl
  style := rfl
  reverse := rfl
  strategy := Composition.Session.setStrategy_strategy ..

variable [Scroll.Distance α]

theorem ofConfig_setTo (config : Config) : (ofConfig config : Pane ε κ α τ).SetTo config where
  colors := rfl
  style := rfl
  reverse := rfl
  strategy := Composition.Session.initial_strategy _

namespace SetTo

variable {config : Config} {limit : Nat} {shown : Option Frame} {pane : Pane ε κ α τ}

omit [Scroll.Distance α] in
private theorem ofSession (set : pane.SetTo config) {session : Session ε κ (Listener τ)}
    (style : session.style = pane.session.style) : SetTo config { pane with session } :=
  { set with style := style.trans set.style }

omit [Scroll.Distance α] in
theorem scrollWith (set : pane.SetTo config) (move : Scroll.State α → Scroll.State α × Bool)
    (moves : Scroll.State.Moves pane.view.scroll (move pane.view.scroll)) :
    (pane.scrollWith move).1.SetTo config :=
  { set with reverse := moves.reverse.trans set.reverse }

theorem pump (set : pane.SetTo config) (keeps : pane.Keeps shown) : pane.pump.1.SetTo config := by
  obtain ⟨changes, waiting⟩ := keeps.waiting
  rw [pump_eq keeps.free waiting]
  refine { set with reverse := ?_, strategy := ?_ }
  · exact (pane.view.applyChanges_reverse changes).trans set.reverse
  · exact (congrArg _ (pane.view.applyChanges_input changes)).trans set.strategy

theorem render (set : pane.SetTo config) (keeps : pane.Keeps shown) (held : Bool) :
    (pane.render held).1.SetTo config := by
  have pumped := set.pump keeps
  rw [render_eq]
  refine { pumped with reverse := ?_, strategy := ?_ }
  · rw [updateView_view, ViewState.takeFrame_scroll]
    exact pumped.reverse
  · rw [updateView_view, ViewState.takeFrame_input]
    exact pumped.strategy

section Accesses

variable [Connector κ]

theorem work (set : pane.SetTo config) (found : Round) : (pane.work found).1.SetTo config := by
  obtain ⟨changes, worked⟩ := pane.work_eq found
  have viewed : (pane.work found).1.view = pane.view := by
    rw [worked]
    exact Presentation.Context.submitAll_state ..
  -- What the view is told waits in the queue.
  refine { colors := ?_, style := ?_, reverse := ?_, strategy := ?_ }
  · rw [worked]
    exact set.colors
  · rw [worked]
    exact (pane.session.work_style found).trans set.style
  · rw [viewed]
    exact set.reverse
  · rw [viewed]
    exact set.strategy

theorem handle (set : pane.SetTo config) {event : Composition.Event}
    (suits : (Access.own (.input event) : Access κ α τ).Suits config) :
    (pane.handle event).1.SetTo config := by
  rw [handle_eq]
  refine { set with reverse := ?_, strategy := ?_ }
  · exact (ViewState.takeInput_reverse ..).trans set.reverse
  · refine (congrArg _ (ViewState.takeInput_input ..)).trans ?_
    rw [Composition.Session.step_strategy]
    cases event with
    | setStrategy strategy => exact suits
    | _ => exact set.strategy

variable [Extent α]

omit [Scroll.Distance α] in
theorem fit (set : pane.SetTo config) (width height cellWidth cellHeight : α) :
    (pane.fit width height cellWidth cellHeight).1.SetTo config := by
  unfold Pane.fit
  split
  · exact set
  · dsimp only
    split
    · exact set
    · exact { set.ofSession (pane.session.resize_style _) with }

theorem step (set : pane.SetTo config) (keeps : pane.Keeps shown) {call : Call κ α}
    (suits : (Access.own call : Access κ α τ).Suits config) : (pane.step call).1.SetTo config := by
  cases call with
  | start connector => exact set.ofSession (pane.session.start_style connector)
  | stop =>
    exact { set with strategy := (Composition.Session.initial_strategy _).trans set.strategy }
  | setWaker weight => exact { set with }
  | output piece => exact set.work _
  | endOutput => exact set.work _
  | input event => exact set.handle suits
  | sendText text => exact set.ofSession (pane.session.send_style _)
  | drag delta height => exact set.scrollWith (·.drag delta height) (Scroll.State.drag_moves ..)
  | scrollLines lines =>
    exact set.scrollWith (·.scrollLines lines) (Scroll.State.scrollLines_moves ..)
  | scrollToBottom =>
    exact set.scrollWith (fun scroll => (scroll.scrollToBottom, !scroll.isAtBottom))
      (Scroll.State.scrollToBottom_moves _)
  | fit width height cellWidth cellHeight => exact set.fit width height cellWidth cellHeight
  | configure other =>
    obtain rfl : other = config := suits
    exact pane.configure_setTo other
  | pump => exact set.pump keeps
  | render held => exact set.render keeps held

theorem grant (set : pane.SetTo config) (keeps : pane.Keeps shown) {access : Access κ α τ}
    (suits : access.Suits config) : (pane.grant access).1.SetTo config := by
  cases access with
  | own call => exact set.step keeps suits
  | work found => exact set.work found
  | ask request =>
    refine { set with style := (pane.session.serve_style request).trans ?_ }
    cases request with
    | restyle style => exact suits
    | _ => exact set.style
  | adjust scroll input => exact { set with reverse := suits.1, strategy := suits.2 }

theorem grantAll (set : pane.SetTo config) (keeps : pane.Keeps shown)
    {accesses : List (Access κ α τ)} (suits : ∀ access ∈ accesses, access.Suits config) :
    (pane.grantAll accesses).1.SetTo config := by
  induction accesses generalizing pane shown with
  | nil => exact set
  | cons access rest ih =>
    exact ih (set.grant keeps (suits access List.mem_cons_self)) (keeps.grant access).1
      fun later member => suits later (List.mem_cons_of_mem access member)

end Accesses

/-- The frame of a pane hangs on the settings, the buffer, the size and the place of the view,
and on nothing else. -/
theorem render_frame (set : pane.SetTo config) (fits : pane.Fits limit) (keeps : pane.Keeps shown) :
    (pane.render false).2 =
      .ok (.ofView pane.session.view (.ofConfig config) pane.session.size.columns
        pane.session.size.rows pane.pump.1.view.scroll.origin config.colors) := by
  have pumped := set.pump keeps
  have fitting : pane.pump.1.Fits limit := fits
  obtain ⟨frame, built, rendered, -⟩ := fits.render
  rw [rendered, ← built, build_eq _ fitting.wide fitting.high, pumped.style, pumped.colors]
  rfl

end SetTo

/-- What a pane is left with when it takes settings over. -/
structure Reloads (config : Config) (before after : Pane ε κ α τ) : Prop where
  size : after.session.size = before.session.size
  screen : after.session.screen = before.session.screen
  scroll : after.view.scroll = before.view.scroll.setReverse config.scrollReverse
  kept : after.view.input = before.view.input ↔ before.view.input.strategy = config.composition
  dropped : before.view.input.strategy ≠ config.composition →
    after.view.input = .initial config.composition

omit [Scroll.Distance α] in
theorem configure_reloads (pane : Pane ε κ α τ) (config : Config) :
    Reloads config pane (pane.configure config) where
  size := rfl
  screen := rfl
  scroll := rfl
  kept := pane.view.input.setStrategy_eq_iff config.composition
  dropped other := if_neg other

/-- Settings that are taken over leave the size, the screen and the place of the view as they
are, and the input exactly if its strategy is the one asked for. As long as nobody asks for
others they are in force: input is composed by their strategy, a drag counts in the
direction that they give it, and the next frame built from the buffer comes of them, the
buffer, the size and the place of the view alone. So it is the frame of a pane that was
created with these settings and shows the same, whatever settings were in force before. -/
theorem configure_as_new [Connector κ] [Extent α] (first config : Config)
    (accesses : List (Access κ α τ)) {later others : List (Access κ α τ)}
    (suits : ∀ access ∈ later, access.Suits config)
    (suit : ∀ access ∈ others, access.Suits config) :
    let before := ((ofConfig first : Pane ε κ α τ).grantAll accesses).1
    let pane := ((before.configure config).grantAll later).1
    let fresh := ((ofConfig config : Pane ε κ α τ).grantAll others).1
    Reloads config before (before.configure config) ∧
      pane.view.input.strategy = config.composition ∧
      (∀ delta height : α,
        let turned := if config.scrollReverse then Scroll.Distance.neg delta else delta
        let plain := (pane.view.scroll.setReverse false).drag turned height
        pane.view.scroll.directed delta = turned ∧
          (Scroll.Distance.isFinite turned = Scroll.Distance.isFinite delta →
            (pane.drag delta height).1.view.scroll = plain.1.setReverse config.scrollReverse ∧
              (pane.drag delta height).2 = plain.2)) ∧
      (pane.render false).2 =
        .ok (.ofView pane.session.view (.ofConfig config) pane.session.size.columns
          pane.session.size.rows pane.pump.1.view.scroll.origin config.colors) ∧
      (fresh.session.view = pane.session.view → fresh.session.size = pane.session.size →
        fresh.pump.1.view.scroll.origin = pane.pump.1.view.scroll.origin →
        (fresh.render false).2 = (pane.render false).2) := by
  intro before pane fresh
  have ran : before.Keeps _ := ((ofConfig_keeps first).grantAll accesses).1
  have reloaded : (before.configure config).Keeps _ := (ran.step (.configure config)).1
  have fits : pane.Fits first.effectiveScrollback :=
    ((((ofConfig_fits first).grantAll accesses).step (.configure config)).grantAll later)
  have set : pane.SetTo config := (before.configure_setTo config).grantAll reloaded suits
  have frame := set.render_frame fits (reloaded.grantAll later).1
  have freshFrame : (fresh.render false).2 = _ :=
    ((ofConfig_setTo config).grantAll (ofConfig_keeps config) suit).render_frame
      ((ofConfig_fits config).grantAll others) ((ofConfig_keeps config).grantAll others).1
  refine ⟨before.configure_reloads config, set.strategy, fun delta height => ?_, frame,
    fun view size origin => ?_⟩
  · intro turned plain
    refine ⟨?_, fun finite => ?_⟩
    · rw [Scroll.State.directed, set.reverse]
    · have turns :
          (if config.scrollReverse then Scroll.Distance.neg delta else delta) = turned := rfl
      have dragged := pane.view.scroll.setReverse_drag height turns finite
      rw [Scroll.State.setReverse_self set.reverse] at dragged
      exact ⟨congrArg Prod.fst dragged, congrArg Prod.snd dragged⟩
  · rw [freshFrame, frame, view, size, origin]

/-- Colours of another theme, one of them replaced. -/
def replacedColors : Config :=
  { theme := "windows", palette := ["#123456"], columns := 5, rows := 2, defaultForeground := 7 }

def reversedFlags : Config :=
  { columns := 5, rows := 2, composition := .flag, scrollReverse := true }

theorem configure_as_new_amid_output :
    let before := ((ofConfig replacedColors : Pane Screen.State Echo Int Unit).grantAll
      [.own (.start {}), .own (.output [0x61, 0x0A, 0x0A]), .own (.render false)]).1
    let pane := ((before.configure reversedFlags).grantAll [.own (.output [0x62]), .own .pump]).1
    let fresh := ((ofConfig reversedFlags : Pane Screen.State Echo Int Unit).grantAll
      [.own (.start {}), .own (.output [0x61, 0x0A, 0x0A, 0x62])]).1
    before.view.input.strategy ≠ reversedFlags.composition ∧
      (pane.drag (-1) 1).2 = true ∧
      (pane.drag (-1) 1).1.view.scroll =
        ((pane.view.scroll.setReverse false).drag 1 1).1.setReverse true ∧
      (fresh.render false).2 = (pane.render false).2 := by
  intro before pane fresh
  have later : ∀ access ∈ ([.own (.output [0x62]), .own .pump] : List (Access Echo Int Unit)),
      access.Suits reversedFlags := by simp [Access.Suits]
  have others : ∀ access ∈
      ([.own (.start {}), .own (.output [0x61, 0x0A, 0x0A, 0x62])] : List (Access Echo Int Unit)),
      access.Suits reversedFlags := by simp [Access.Suits]
  obtain ⟨-, -, drags, -, same⟩ :=
    @configure_as_new Screen.State Echo Int Unit _ _ _ _ replacedColors reversedFlags
      [.own (.start {}), .own (.output [0x61, 0x0A, 0x0A]), .own (.render false)] _ _ later others
  obtain ⟨-, dragged⟩ := drags (-1) 1
  refine ⟨by decide +kernel, by decide +kernel, (dragged rfl).1, same ?_ ?_ ?_⟩
  · exact congrArg Screen.State.view (show fresh.session.screen = pane.session.screen from rfl)
  · decide +kernel
  · decide +kernel

end Pane

end TtyFrame

import TtyFrame.Proofs.Composition.Draft

/-! The order in which text reaches the terminal. Whatever an event sends goes out behind
the text that was written before it, with one exception: an action that stands for the
enter key does not look at that text. -/

set_option autoImplicit false

namespace TtyFrame.Composition

/-- What an event sends leaves nothing unsent, unless it is an enter action that finds
a draft. -/
theorem Draft.step_sends_clear_iff (encoder : LogicalEncoder) (draft : Draft) (event : Event) :
    ((Draft.step encoder draft event).2.sends ≠ [] → (Draft.step encoder draft event).1 = []) ↔
      ¬ (draft ≠ [] ∧ ∃ action, event = .action action ∧ action.isEnter = true) := by
  cases event with
  | compose | commit | finish | setStrategy | reset => simp [Draft.step]
  | deleteSurrounding before after =>
      simp only [Draft.step]
      split <;> simp
  | action action =>
      by_cases enter : action.isEnter = true
      · by_cases empty : draft = [] <;> simp [Draft.step, enter, empty]
      · simp [Draft.step, enter]
  | key event character =>
      simp only [Draft.step, reduceCtorEq, false_and, exists_false, and_false, not_false_eq_true,
        iff_true]
      cases Draft.ofKey encoder event character with
      | mk handled own => cases own <;> simp

theorem Represents.pendingText {session : Session} {draft : Draft}
    (represents : Represents session draft) : session.pendingText = draft := by
  obtain ⟨_, pending, rfl, text⟩ := represents
  exact text

private theorem Session.step_flag_pendingText (encoder : LogicalEncoder) (active : Bool)
    (event : Event) :
    ((flag active).step encoder event).1.pendingText = [] := by
  cases event with
  | compose | commit | finish | reset => rfl
  | deleteSurrounding before after => cases active <;> rfl
  | action action =>
      simp only [Session.step, Session.act]
      split <;> rfl
  | key event character =>
      simp only [Session.step, Session.key]
      split <;> rfl
  | setStrategy strategy => cases strategy <;> rfl

/-- In every session that a run reaches, under either strategy, an event that sends
something leaves no text unsent behind it, unless it is an enter action that finds text. -/
theorem follow_sends_clear_iff (strategy : Strategy) (script : List (LogicalEncoder × Event))
    (encoder : LogicalEncoder) (event : Event) :
    let session := ((Session.initial strategy).follow script).1
    let after := session.step encoder event
    (after.2.sends ≠ [] → after.1.pendingText = []) ↔
      ¬ (session.pendingText ≠ [] ∧ ∃ action, event = .action action ∧ action.isEnter = true) := by
  intro session after
  have whole : session.Whole := Session.follow_whole (Session.initial_whole strategy) script
  cases reached : session with
  | flag active =>
      have nothing : after.1.pendingText = [] := by
        simp only [after, reached, Session.step_flag_pendingText]
      refine iff_of_true (fun _ => nothing) ?_
      simp only [Session.pendingText, ne_eq, not_true, false_and, not_false_eq_true]
  | buffered pending =>
      have represents : Represents session pending.text := ⟨whole, pending, reached, rfl⟩
      by_cases stays : event = .setStrategy .flag
      · simp [after, stays, Session.step]
      · obtain ⟨next, response⟩ := represents.step encoder stays
        have exact := Draft.step_sends_clear_iff encoder pending.text event
        rw [← response, ← next.pendingText] at exact
        simpa only [Session.pendingText] using exact

/-- The enter action overtakes text that is still being composed. -/
theorem enter_action_overtakes_draft :
    ¬ ∀ (strategy : Strategy) (script : List (LogicalEncoder × Event))
        (encoder : LogicalEncoder) (event : Event),
      let after := ((Session.initial strategy).follow script).1.step encoder event
      after.2.sends ≠ [] → after.1.pendingText = [] := by
  intro claimed
  have cleared := claimed .buffered [(refusing, .compose "ni")] refusing (.action .done)
  revert cleared
  decide

end TtyFrame.Composition

import TtyFrame.Composition
import TtyFrame.Proofs.Composition.Accumulator

/-! Runs in which every event comes with the encoder that is in force when it arrives.
Every session that such a run reaches keeps its composing span over the whole text, so
no edit of the text can fail to fit. The strategy is another one only after an event that
asks for it. -/

set_option autoImplicit false

namespace TtyFrame.Composition

namespace Session

/-- Takes events in order, each with its encoder, and gives the response to each. -/
def follow (session : Session) :
    List (LogicalEncoder × Event) → Session × List Response
  | [] => (session, [])
  | (encoder, event) :: rest =>
    let (next, response) := session.step encoder event
    let (last, responses) := next.follow rest
    (last, response :: responses)

theorem follow_cons (session : Session) (encoder : LogicalEncoder) (event : Event)
    (rest : List (LogicalEncoder × Event)) :
    session.follow ((encoder, event) :: rest) =
      (((session.step encoder event).1.follow rest).1,
        (session.step encoder event).2 :: ((session.step encoder event).1.follow rest).2) := rfl

/-- A run under one encoder is the run in which that encoder comes with each event. -/
theorem run_eq_follow (encoder : LogicalEncoder) (session : Session) (events : List Event) :
    session.run encoder events = session.follow (events.map fun event => (encoder, event)) := by
  induction events generalizing session with
  | nil => rfl
  | cons event rest ih => simp only [run, List.map_cons, follow_cons, ih]

/-- The text of a buffered session is covered by its composing span. -/
def Whole : Session → Prop
  | .flag _ => True
  | .buffered pending => pending.Whole

theorem initial_whole (strategy : Strategy) : (initial strategy).Whole := by
  cases strategy with
  | buffered => exact Accumulator.whole_empty
  | flag => trivial

/-- A deletion leaves a covered text, or an empty one if it went past all of it. -/
theorem absorbDeletion_buffered {pending : Accumulator} (whole : pending.Whole)
    (before after : Nat) :
    (buffered pending).absorbDeletion before after =
      if pending.text.take (pending.text.length - before) = [] then
        (buffered {}, some ⟨before - min before pending.text.length, after⟩)
      else (buffered (pending.deleteBefore before).1, none) := by
  have stillWhole := whole.deleteBefore before
  have open_iff := stillWhole.hasComposing_iff
  rw [Accumulator.deleteBefore_text] at open_iff
  simp only [absorbDeletion, Accumulator.deleteBefore_count]
  split
  · next composing => rw [if_neg (open_iff.mp composing)]
  · next closed =>
    have empty : pending.text.take (pending.text.length - before) = [] :=
      Decidable.not_not.mp fun some => closed (open_iff.mpr some)
    rw [if_pos empty]
    simp only [Accumulator.finish, Accumulator.deleteBefore_text, empty]

theorem deleteSurrounding_buffered {pending : Accumulator} (whole : pending.Whole)
    (encoder : LogicalEncoder) (before after : Nat) :
    (buffered pending).deleteSurrounding encoder before after =
      if pending.text.take (pending.text.length - before) = [] then
        (buffered {}, ⟨true, Deletion.sends
          ⟨before - min before pending.text.length, after⟩ encoder⟩)
      else (buffered (pending.deleteBefore before).1, ⟨true, []⟩) := by
  rw [deleteSurrounding, absorbDeletion_buffered whole]
  by_cases gone : pending.text.take (pending.text.length - before) = []
  · simp only [if_pos gone]
  · simp only [if_neg gone]

/-- A key that sends something empties the text, which goes out ahead of it. -/
theorem key_buffered (pending : Accumulator) (encoder : LogicalEncoder) (event : KeyEvent)
    (character : Option Char) :
    (buffered pending).key encoder event character =
      if (keyResponse encoder event character).sends = [] then
        (buffered pending, keyResponse encoder event character)
      else if pending.text = [] then (buffered pending, keyResponse encoder event character)
      else
        (buffered {}, ⟨(keyResponse encoder event character).handled,
          .text (String.ofList (Text.normalizeChars pending.text)) ::
            (keyResponse encoder event character).sends⟩) := by
  simp only [key, Accumulator.isEmpty, List.isEmpty_iff, Accumulator.take]

theorem step_whole {session : Session} (whole : session.Whole) (encoder : LogicalEncoder)
    (event : Event) : (session.step encoder event).1.Whole := by
  cases session with
  | flag active =>
      cases event with
      | setStrategy strategy =>
          cases strategy with
          | buffered => exact Accumulator.whole_empty
          | flag => trivial
      | deleteSurrounding before after => cases active <;> trivial
      | action action =>
          simp only [step, act]
          split <;> trivial
      | key event character =>
          simp only [step, key]
          split <;> trivial
      | compose | commit | finish | reset => trivial
  | buffered pending =>
      cases event with
      | compose text =>
          simp only [step, compose, Accumulator.Whole.setComposing whole]
          rfl
      | commit text => exact Accumulator.whole_empty
      | finish => exact Accumulator.whole_empty
      | deleteSurrounding before after =>
          simp only [step, deleteSurrounding_buffered whole]
          split
          · exact Accumulator.whole_empty
          · exact Accumulator.Whole.deleteBefore whole before
      | action action =>
          simp only [step, act]
          split <;> exact whole
      | key event character =>
          simp only [step, key_buffered]
          split
          · exact whole
          · split
            · exact whole
            · exact Accumulator.whole_empty
      | setStrategy strategy =>
          cases strategy with
          | buffered => exact whole
          | flag => trivial
      | reset => exact Accumulator.whole_empty

theorem follow_whole {session : Session} (whole : session.Whole)
    (script : List (LogicalEncoder × Event)) : (session.follow script).1.Whole := by
  induction script generalizing session with
  | nil => exact whole
  | cons entry rest ih =>
      obtain ⟨encoder, event⟩ := entry
      exact ih (step_whole whole encoder event)

theorem initial_strategy (strategy : Strategy) : (initial strategy).strategy = strategy := by
  cases strategy with
  | buffered => rfl
  | flag => rfl

theorem setStrategy_strategy (session : Session) (strategy : Strategy) :
    (session.setStrategy strategy).strategy = strategy := by
  unfold setStrategy
  split
  · next same => exact same
  · exact initial_strategy strategy

/-- A session is left alone by its own strategy and by no other. -/
theorem setStrategy_eq_iff (session : Session) (strategy : Strategy) :
    session.setStrategy strategy = session ↔ session.strategy = strategy := by
  constructor
  · intro same
    rw [← same]
    exact session.setStrategy_strategy strategy
  · intro same
    exact if_pos same

theorem absorbDeletion_strategy (session : Session) (before after : Nat) :
    (session.absorbDeletion before after).1.strategy = session.strategy := by
  cases session with
  | flag active => cases active <;> rfl
  | buffered pending =>
    simp only [absorbDeletion]
    split <;> rfl

theorem deleteSurrounding_strategy (session : Session) (encoder : LogicalEncoder)
    (before after : Nat) :
    (session.deleteSurrounding encoder before after).1.strategy = session.strategy := by
  have absorbed := session.absorbDeletion_strategy before after
  unfold deleteSurrounding
  split
  · next next deletion same =>
    rw [same] at absorbed
    exact absorbed
  · next next same =>
    rw [same] at absorbed
    exact absorbed

private theorem act_strategy (session : Session) (action : EditorAction) :
    (session.act action).1.strategy = session.strategy := by
  unfold act
  split <;> rfl

theorem key_strategy (session : Session) (encoder : LogicalEncoder) (event : KeyEvent)
    (character : Option Char) :
    (session.key encoder event character).1.strategy = session.strategy := by
  unfold key
  dsimp only
  split
  · rfl
  · cases session with
    | flag active => rfl
    | buffered pending =>
      dsimp only
      split <;> rfl

/-- Only an event that asks for a strategy can bring another one. -/
theorem step_strategy (session : Session) (encoder : LogicalEncoder) (event : Event) :
    (session.step encoder event).1.strategy =
      match event with
      | .setStrategy strategy => strategy
      | _ => session.strategy := by
  cases event with
  | compose text => cases session <;> rfl
  | commit text => cases session <;> rfl
  | finish => cases session <;> rfl
  | deleteSurrounding before after => exact session.deleteSurrounding_strategy encoder before after
  | action action => exact session.act_strategy action
  | key event character => exact session.key_strategy encoder event character
  | setStrategy strategy => exact session.setStrategy_strategy strategy
  | reset => exact initial_strategy session.strategy

end Session

end TtyFrame.Composition

import Mathlib.Data.List.Induction
import TtyFrame.Proofs.Composition.Draft

/-! The two strategies side by side. Outside of a composition neither keeps any text, and
within one they differ only in what a finish, a deletion or a key that sends something does
with the text. Where those come only outside of a composition, nobody can tell the
strategies apart. -/

set_option autoImplicit false

namespace TtyFrame.Composition

/-- After the event, no composition that was open before it is open any more. -/
def Event.Closes : Event → Prop
  | .compose text => text = ""
  | .commit _ | .finish | .reset => True
  | .deleteSurrounding .. | .action _ | .key .. | .setStrategy _ => False

instance : DecidablePred Event.Closes
  | .compose _ => inferInstanceAs (Decidable (_ = _))
  | .commit _ | .finish | .reset => .isTrue trivial
  | .deleteSurrounding .. | .action _ | .key .. | .setStrategy _ => .isFalse id

/-- The event has to do with text that is not sent yet, which only one strategy keeps. -/
def Event.TouchesDraft (encoder : LogicalEncoder) : Event → Prop
  | .finish | .deleteSurrounding .. => True
  | .key event character => (keyResponse encoder event character).sends ≠ []
  | .compose _ | .commit _ | .action _ | .setStrategy _ | .reset => False

instance (encoder : LogicalEncoder) : DecidablePred (Event.TouchesDraft encoder)
  | .finish | .deleteSurrounding .. => .isTrue trivial
  | .key .. => inferInstanceAs (Decidable (_ ≠ _))
  | .compose _ | .commit _ | .action _ | .setStrategy _ | .reset => .isFalse id

/-- After the events a composition is open: text was composed, and nothing closed that
since. -/
def Open (events : List Event) : Prop :=
  ∃ earlier text later, events = earlier ++ .compose text :: later ∧ text ≠ "" ∧
    ∀ event ∈ later, ¬ event.Closes

/-- No event of the script that has to do with unsent text comes while a composition is
open. -/
def Orderly (script : List (LogicalEncoder × Event)) : Prop :=
  ∀ (count : Nat) (within : count < script.length),
    script[count].2.TouchesDraft script[count].1 → ¬ Open ((script.take count).map (·.2))

private theorem not_open_nil : ¬ Open [] := by
  rintro ⟨earlier, text, later, split, -⟩
  exact List.append_ne_nil_of_right_ne_nil earlier (List.cons_ne_nil _ later) split.symm

/-- An event opens a composition by composing some text, or leaves open one that it does
not close. -/
theorem open_concat_iff (events : List Event) (event : Event) :
    Open (events ++ [event]) ↔
      (∃ text, event = .compose text ∧ text ≠ "") ∨ (Open events ∧ ¬ event.Closes) := by
  constructor
  · rintro ⟨earlier, text, later, split, some, kept⟩
    obtain rfl | ⟨later, last, rfl⟩ := List.eq_nil_or_concat later
    -- The text was composed by the last event, or before it and the last event left it open.
    · obtain ⟨-, same⟩ := List.append_inj' split rfl
      exact .inl ⟨text, List.singleton_inj.mp same, some⟩
    · rw [List.concat_eq_append, ← List.cons_append, ← List.append_assoc] at split
      obtain ⟨rfl, same⟩ := List.append_inj' split rfl
      obtain rfl := List.singleton_inj.mp same
      refine .inr ⟨⟨earlier, text, later, rfl, some, fun other member => ?_⟩, ?_⟩
      · exact kept other (by simp [member])
      · exact kept event (by simp)
  · rintro (⟨text, rfl, some⟩ | ⟨⟨earlier, text, later, rfl, some, kept⟩, leaves⟩)
    · exact ⟨events, text, [], rfl, some, by simp⟩
    · refine ⟨earlier, text, later ++ [event], by simp, some, fun other member => ?_⟩
      rcases List.mem_append.mp member with old | new
      · exact kept other old
      · rw [List.mem_singleton.mp new]
        exact leaves

/-- Whether a composition is open can be told event by event. -/
theorem open_iff_foldl (events : List Event) :
    Open events ↔
      events.foldl (fun active event =>
        match event with
        | .compose text => decide (text ≠ "")
        | event => active && decide (¬ event.Closes)) false = true := by
  induction events using List.reverseRecOn with
  | nil => simp [not_open_nil]
  | append_singleton events event ih =>
      rw [open_concat_iff, ih, List.foldl_append]
      cases event <;> simp [Event.Closes]

instance : DecidablePred Open := fun events => decidable_of_iff _ (open_iff_foldl events).symm

instance : DecidablePred Orderly := fun script =>
  inferInstanceAs (Decidable (∀ (count : Nat) (within : count < script.length),
    script[count].2.TouchesDraft script[count].1 → ¬ Open ((script.take count).map (·.2))))

theorem Orderly.take {script : List (LogicalEncoder × Event)} (orderly : Orderly script)
    (count : Nat) : Orderly (script.take count) := by
  intro place within
  rw [List.length_take] at within
  have shorter : min place count = place := by omega
  rw [List.getElem_take, List.take_take, shorter]
  exact orderly place (by omega)

/-- A draft as it is kept by the flag alone: the flag is up while there is some text. -/
def Flags (active : Bool) (draft : Draft) : Prop := active = true ↔ draft ≠ []

namespace Flags

variable {active : Bool} {draft : Draft}

theorem closed (flags : Flags active draft) (empty : draft = []) : active = false := by
  rw [← Bool.not_eq_true]
  exact fun up => flags.mp up empty

/-- The flag follows a draft and gives the same response, unless the event has to do with
a draft that is not empty. -/
theorem step (flags : Flags active draft) (encoder : LogicalEncoder) {event : Event}
    (stays : ∀ strategy, event ≠ .setStrategy strategy)
    (outside : event.TouchesDraft encoder → draft = []) :
    ∃ next, (Session.flag active).step encoder event =
        (.flag next, (Draft.step encoder draft event).2) ∧
      Flags next (Draft.step encoder draft event).1 := by
  cases event with
  | compose text =>
      refine ⟨!text.toList.isEmpty, rfl, ?_⟩
      simp [Flags, Draft.step]
  | commit text =>
      refine ⟨false, ?_, by simp [Flags, Draft.step]⟩
      simp only [Session.step, Session.commit, textResponse_eq, Draft.step]
  | finish =>
      obtain rfl := outside trivial
      exact ⟨false, rfl, by simp [Flags, Draft.step]⟩
  | deleteSurrounding before after =>
      obtain rfl := outside trivial
      obtain rfl := flags.closed rfl
      refine ⟨false, ?_, by simp [Flags, Draft.step]⟩
      simp [Session.step, Session.deleteSurrounding, Session.absorbDeletion, Draft.step,
        deletion_sends_eq]
  | action action =>
      refine ⟨active, ?_, flags⟩
      simp only [Session.step, Session.act, Draft.step]
      split <;> rfl
  | key event character =>
      simp only [Event.TouchesDraft, keyResponse_eq] at outside
      simp only [Session.step, Session.key, keyResponse_eq, Draft.step]
      cases meaning : Draft.ofKey encoder event character with
      | mk handled own =>
          cases own with
          | none => exact ⟨active, rfl, flags⟩
          | some own =>
              rw [meaning] at outside
              obtain rfl := outside (List.cons_ne_nil own [])
              exact ⟨active, rfl, flags⟩
  | setStrategy strategy => exact absurd rfl (stays strategy)
  | reset => exact ⟨false, rfl, by simp [Flags, Draft.step]⟩

end Flags

/-- A draft holds some text exactly while a composition is open. -/
theorem Draft.step_ne_nil_iff {encoder : LogicalEncoder} {draft : Draft} {event : Event}
    (stays : ∀ strategy, event ≠ .setStrategy strategy)
    (outside : event.TouchesDraft encoder → draft = []) :
    (step encoder draft event).1 ≠ [] ↔
      (∃ text, event = .compose text ∧ text ≠ "") ∨ (draft ≠ [] ∧ ¬ event.Closes) := by
  cases event with
  | compose text => by_cases empty : text = "" <;> simp [step, Event.Closes, empty]
  | commit | finish | reset => simp [step, Event.Closes]
  | deleteSurrounding before after =>
      obtain rfl := outside trivial
      simp [step]
  | action action => simp [step, Event.Closes]
  | key event character =>
      simp only [Event.TouchesDraft, keyResponse_eq] at outside
      simp only [step]
      cases meaning : ofKey encoder event character with
      | mk handled own =>
          cases own with
          | none => simp [Event.Closes]
          | some own =>
              rw [meaning] at outside
              simp [outside (List.cons_ne_nil own [])]
  | setStrategy strategy => exact absurd rfl (stays strategy)

/-- Two sessions after the same events, one of each strategy: both stand for one draft, and
there is some text in it exactly while a composition is open. -/
structure SideBySide (events : List Event) (flagged buffered : Session) (draft : Draft) :
    Prop where
  flags : ∃ active, flagged = .flag active ∧ Flags active draft
  represents : Represents buffered draft
  composing : draft ≠ [] ↔ Open events

namespace SideBySide

theorem initial : SideBySide [] (.initial .flag) (.initial .buffered) [] where
  flags := ⟨false, rfl, by simp [Flags]⟩
  represents := .initial
  composing := by simp [not_open_nil]

variable {events : List Event} {flagged buffered : Session} {draft : Draft}

theorem isComposing_flagged (together : SideBySide events flagged buffered draft) :
    flagged.isComposing = true ↔ Open events := by
  obtain ⟨⟨active, rfl, flags⟩, -, composing⟩ := together
  exact flags.trans composing

theorem isComposing_buffered (together : SideBySide events flagged buffered draft) :
    buffered.isComposing = true ↔ Open events := by
  obtain ⟨-, ⟨whole, pending, rfl, rfl⟩, composing⟩ := together
  exact (Accumulator.Whole.hasComposing_iff whole).trans composing

theorem step (together : SideBySide events flagged buffered draft) (encoder : LogicalEncoder)
    {event : Event} (stays : ∀ strategy, event ≠ .setStrategy strategy)
    (outside : event.TouchesDraft encoder → ¬ Open events) :
    SideBySide (events ++ [event]) (flagged.step encoder event).1
        (buffered.step encoder event).1 (Draft.step encoder draft event).1 ∧
      (flagged.step encoder event).2 = (buffered.step encoder event).2 := by
  obtain ⟨⟨active, rfl, flags⟩, represents, composing⟩ := together
  have empty : event.TouchesDraft encoder → draft = [] := fun touches =>
    Decidable.not_not.mp fun some => outside touches (composing.mp some)
  obtain ⟨next, stepped, nextFlags⟩ := flags.step encoder stays empty
  obtain ⟨nextRepresents, response⟩ := represents.step encoder (stays .flag)
  rw [stepped, response]
  refine ⟨⟨⟨next, rfl, nextFlags⟩, nextRepresents, ?_⟩, rfl⟩
  rw [Draft.step_ne_nil_iff stays empty, open_concat_iff, composing]

theorem follow (together : SideBySide events flagged buffered draft)
    {script : List (LogicalEncoder × Event)}
    (stays : ∀ entry ∈ script, ∀ strategy, entry.2 ≠ .setStrategy strategy)
    (orderly : ∀ (count : Nat) (within : count < script.length),
      script[count].2.TouchesDraft script[count].1 →
        ¬ Open (events ++ (script.take count).map (·.2))) :
    (∃ last, SideBySide (events ++ script.map (·.2)) (flagged.follow script).1
        (buffered.follow script).1 last) ∧
      (flagged.follow script).2 = (buffered.follow script).2 := by
  induction script generalizing events flagged buffered draft with
  | nil =>
      rw [List.map_nil, List.append_nil]
      exact ⟨⟨draft, together⟩, rfl⟩
  | cons entry rest ih =>
      obtain ⟨encoder, event⟩ := entry
      have first : event.TouchesDraft encoder → ¬ Open events := by
        simpa using orderly 0 (Nat.succ_pos _)
      obtain ⟨next, response⟩ := together.step encoder (stays _ List.mem_cons_self) first
      -- What is open further on depends on all events so far, so these are carried along.
      have later (count : Nat) (within : count < rest.length) :
          rest[count].2.TouchesDraft rest[count].1 →
            ¬ Open (events ++ [event] ++ (rest.take count).map (·.2)) := by
        simpa using orderly (count + 1) (Nat.succ_lt_succ within)
      obtain ⟨⟨last, reached⟩, responses⟩ := ih next
        (fun entry member => stays entry (List.mem_cons_of_mem _ member)) later
      rw [Session.follow_cons, Session.follow_cons, response, responses]
      rw [List.append_assoc] at reached
      exact ⟨⟨last, reached⟩, rfl⟩

end SideBySide

/-- In a script that lets every composition end before it does anything else with its text,
the strategies give the same responses, and after every event both are composing exactly
if a composition is open. -/
theorem flag_follow_eq_buffered (script : List (LogicalEncoder × Event))
    (stays : ∀ entry ∈ script, ∀ strategy, entry.2 ≠ .setStrategy strategy)
    (orderly : Orderly script) :
    ((Session.initial .flag).follow script).2 = ((Session.initial .buffered).follow script).2 ∧
      ∀ count,
        (((Session.initial .flag).follow (script.take count)).1.isComposing =
          ((Session.initial .buffered).follow (script.take count)).1.isComposing) ∧
        (((Session.initial .flag).follow (script.take count)).1.isComposing = true ↔
          Open ((script.take count).map (·.2))) := by
  have run {part : List (LogicalEncoder × Event)}
      (stays : ∀ entry ∈ part, ∀ strategy, entry.2 ≠ .setStrategy strategy)
      (orderly : Orderly part) := SideBySide.initial.follow stays
        (by simpa only [List.nil_append, Orderly] using orderly)
  refine ⟨(run stays orderly).2, fun count => ?_⟩
  obtain ⟨⟨draft, together⟩, -⟩ :=
    run (fun entry member => stays entry (List.mem_of_mem_take member)) (orderly.take count)
  have flagged := together.isComposing_flagged
  exact ⟨Bool.eq_iff_iff.mpr (flagged.trans together.isComposing_buffered.symm), flagged⟩

/-- An enter action and the release of a key within a composition, and a deletion, a finish
and a key outside of one. -/
theorem flag_follow_eq_buffered_typing :
    let erasing : LogicalEncoder := fun key _ => if key = .backspace then some [0x7F] else none
    let script : List (LogicalEncoder × Event) :=
      [(refusing, .compose "ni"), (refusing, .action .done),
        (refusing, .key ⟨⟨45⟩, {}, false⟩ (some 'q')), (refusing, .commit "你\n"),
        (erasing, .deleteSurrounding 2 1), (refusing, .compose "x"), (refusing, .compose ""),
        (refusing, .finish), (refusing, .key ⟨⟨45⟩, {}, true⟩ (some 'q'))]
    (∀ entry ∈ script, ∀ strategy, entry.2 ≠ .setStrategy strategy) ∧ Orderly script ∧
      ((Session.initial .flag).follow script).2 =
        [⟨true, []⟩, ⟨true, [.text "\r"]⟩, ⟨true, []⟩, ⟨true, [.text "你\r"]⟩,
          ⟨true, [.bytes [0x7F], .bytes [0x7F]]⟩, ⟨true, []⟩, ⟨true, []⟩, ⟨true, []⟩,
          ⟨true, [.text "q"]⟩] ∧
      ((Session.initial .flag).follow (script.take 3)).1.isComposing = true := by
  intro erasing script
  have stays : ∀ entry ∈ script, ∀ strategy, entry.2 ≠ .setStrategy strategy := by
    simp [script]
  have orderly : Orderly script := by decide
  obtain ⟨responses, composing⟩ := flag_follow_eq_buffered script stays orderly
  refine ⟨stays, orderly, ?_, ?_⟩
  · rw [responses]
    decide
  · rw [(composing 3).2]
    decide

end TtyFrame.Composition

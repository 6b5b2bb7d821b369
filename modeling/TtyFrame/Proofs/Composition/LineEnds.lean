import TtyFrame.Proofs.Composition.Script
import TtyFrame.Proofs.Text.LineEnds

/-! Line ends in what composed input sends. Every text that goes out has been through one
pass over its line ends, or is a single carriage return, so no line feed is ever sent as
text. -/

set_option autoImplicit false

namespace TtyFrame.Composition

open Text

/-- No text among the sends has a line feed. -/
def Feedless (sends : List Outgoing) : Prop :=
  ∀ text, Outgoing.text text ∈ sends → '\n' ∉ text.toList

namespace Feedless

theorem nil : Feedless [] := by
  intro text member
  cases member

theorem cons {text : String} {rest : List Outgoing} (first : '\n' ∉ text.toList)
    (behind : Feedless rest) : Feedless (.text text :: rest) := by
  intro other member
  rcases List.mem_cons.mp member with same | later
  · obtain rfl := Outgoing.text.inj same
    exact first
  · exact behind other later

theorem append {first second : List Outgoing} (before : Feedless first)
    (behind : Feedless second) : Feedless (first ++ second) := by
  intro text member
  rcases List.mem_append.mp member with early | late
  · exact before text early
  · exact behind text late

theorem normalized (text : List Char) {rest : List Outgoing} (behind : Feedless rest) :
    Feedless (.text (String.ofList (normalizeChars text)) :: rest) := by
  refine cons ?_ behind
  rw [String.toList_ofList]
  exact not_mem_normalizeChars text

end Feedless

theorem textResponse_feedless (text : List Char) : Feedless (textResponse text).sends := by
  unfold textResponse
  split
  · exact .nil
  · exact .normalized text .nil

private theorem keySends_feedless (encoder : LogicalEncoder) (key : LogicalKey) (count : Nat) :
    Feedless (keySends encoder key count) := by
  intro text member
  unfold keySends at member
  split at member
  · cases List.eq_of_mem_replicate member
  · cases member

theorem keyResponse_feedless (encoder : LogicalEncoder) (event : KeyEvent)
    (character : Option Char) : Feedless (keyResponse encoder event character).sends := by
  unfold keyResponse
  cases event.encode encoder with
  | bytes bytes =>
    intro text member
    cases List.mem_singleton.mp member
  | consumed => exact .nil
  | unhandled =>
    cases character with
    | none => exact .nil
    | some c =>
      dsimp only
      split
      · exact .nil
      · exact textResponse_feedless [c]

namespace Session

theorem deleteSurrounding_feedless (session : Session) (encoder : LogicalEncoder)
    (before after : Nat) :
    Feedless (session.deleteSurrounding encoder before after).2.sends := by
  unfold deleteSurrounding
  split
  · exact (keySends_feedless _ _ _).append (keySends_feedless _ _ _)
  · exact .nil

theorem key_feedless (session : Session) (encoder : LogicalEncoder) (event : KeyEvent)
    (character : Option Char) : Feedless (session.key encoder event character).2.sends := by
  have own := keyResponse_feedless encoder event character
  unfold key
  extract_lets response
  split
  · exact own
  · cases session with
    | flag active => exact own
    | buffered pending =>
      dsimp only
      split
      · exact own
      · exact .normalized _ own

theorem step_feedless (session : Session) (encoder : LogicalEncoder) (event : Event) :
    Feedless (session.step encoder event).2.sends := by
  cases event with
  | compose text => cases session <;> exact .nil
  | commit text => cases session <;> exact textResponse_feedless _
  | finish =>
    cases session with
    | flag active => exact .nil
    | buffered pending => exact textResponse_feedless _
  | deleteSurrounding before after => exact session.deleteSurrounding_feedless encoder before after
  | action action =>
    simp only [step, act]
    split
    · exact .cons (by decide) .nil
    · exact .nil
  | key event character => exact session.key_feedless encoder event character
  | setStrategy strategy => exact .nil
  | reset => exact .nil

theorem follow_feedless (session : Session) (script : List (LogicalEncoder × Event)) :
    ∀ response ∈ (session.follow script).2, Feedless response.sends := by
  induction script generalizing session with
  | nil => exact List.forall_mem_nil _
  | cons entry rest ih =>
    obtain ⟨encoder, event⟩ := entry
    rw [follow_cons]
    exact List.forall_mem_cons.mpr ⟨session.step_feedless encoder event, ih _⟩

end Session

/-- Making line ends single is one pass over the text. It leaves no line feed, changes
nothing the second time, keeps the number of line ends, and may be done to the parts of a
text exactly if no pair is cut. No text that a run of events sends, under either strategy,
has a line feed. -/
theorem line_ends_single :
    (∀ text, normalizeLineEnds text = String.ofList (singleReturns text.toList)) ∧
      (∀ text, '\n' ∉ (normalizeLineEnds text).toList) ∧
      (∀ text, normalizeLineEnds (normalizeLineEnds text) = normalizeLineEnds text) ∧
      (∀ text, lineEnds (normalizeLineEnds text).toList = lineEnds text.toList) ∧
      (∀ first second, normalizeLineEnds (first ++ second) =
          normalizeLineEnds first ++ normalizeLineEnds second ↔
        ¬ (first.toList.getLast? = some '\r' ∧ second.toList.head? = some '\n')) ∧
      ∀ (strategy : Strategy) (script : List (LogicalEncoder × Event)),
        ∀ response ∈ ((Session.initial strategy).follow script).2,
          ∀ text, .text text ∈ response.sends → '\n' ∉ text.toList := by
  have pass (text : String) :
      normalizeLineEnds text = String.ofList (singleReturns text.toList) := by
    rw [normalizeLineEnds, normalizeChars_eq]
  have letters (text : String) :
      (normalizeLineEnds text).toList = singleReturns text.toList := by
    rw [pass, String.toList_ofList]
  refine ⟨pass, fun text => ?_, fun text => ?_, fun text => ?_, fun first second => ?_,
    fun strategy script => (Session.initial strategy).follow_feedless script⟩
  · rw [letters]
    exact not_mem_singleReturns _
  · rw [pass, letters, singleReturns_of_not_mem (not_mem_singleReturns _), ← pass]
  · rw [letters, lineEnds_singleReturns]
  · rw [← String.toList_inj, String.toList_append, letters, letters, letters, String.toList_append]
    exact singleReturns_append_iff _ _

end TtyFrame.Composition

import TtyFrame.Proofs.Composition.Boundary
import TtyFrame.Proofs.Composition.Counted

/-! Edits of accumulated text, whatever stands before and after the composing span. Where
the span fits the text, an accumulator is a text in three parts, and every edit is an edit of
the parts, without any offset. So the span fits after every edit, and no edit breaks off. -/

set_option autoImplicit false

namespace TtyFrame.Composition

namespace Accumulator

/-- The composing span, if there is one, fits the text. -/
def WellFormed (acc : Accumulator) : Prop := ∀ span ∈ acc.composing, span.Fits acc.text

/-- New text can take the place of the span exactly if the span fits. -/
theorem replaced?_isSome_iff (acc : Accumulator) (new : List Char) :
    (acc.replaced? new).isSome ↔ acc.WellFormed := by
  cases composing : acc.composing with
  | none => simp [Accumulator.replaced?, WellFormed, composing]
  | some span => simp [Accumulator.replaced?, WellFormed, composing, replaceRange?_isSome_iff]

instance : DecidablePred WellFormed := fun acc => decidable_of_iff _ (acc.replaced?_isSome_iff [])

/-- A span that starts inside a character. -/
example : ¬ WellFormed ⟨['你', 'a'], some ⟨1, 4⟩⟩ := by decide

/-- Where the text goes on behind new text: at the end of the composing span, or not at all. -/
def insertionStop (acc : Accumulator) : Nat :=
  match acc.composing with
  | some span => span.stop
  | none => byteLength acc.text

/-- What is done to an accumulator, with counts in machine words. -/
inductive Edit where
  | compose (new : List Char)
  | commit (new : List Char)
  | finish
  | delete (count : UInt64)
  | take
deriving DecidableEq, Repr

/-- The accumulator after an edit. A range that does not fit stops everything. -/
def perform (acc : Accumulator) : Edit → Except Trap Accumulator
  | .compose new =>
    if (acc.replaced? new).isSome then .ok (acc.setComposing new) else .error .outOfBounds
  | .commit new =>
    if (acc.replaced? new).isSome then .ok (acc.commit new) else .error .outOfBounds
  | .finish => .ok acc.finish
  | .delete count => (acc.deleteCounted count.toNat).map (·.1)
  | .take => .ok acc.take.1

end Accumulator

open Accumulator

/-- A text in the parts that composing makes of it. -/
inductive Layout where
  /-- Nothing is being composed. -/
  | settled (text : List Char)
  | around (before composed after : List Char)
deriving DecidableEq, Repr

namespace Layout

def text : Layout → List Char
  | .settled text => text
  | .around before composed after => before ++ composed ++ after

def accumulator : Layout → Accumulator
  | .settled text => { text }
  | .around before composed after =>
    { text := before ++ composed ++ after
      composing := some ⟨byteLength before, byteLength before + byteLength composed⟩ }

/-- New text in place of the part that is being composed, or at the end. -/
def replace : Layout → List Char → Layout
  | .settled text, new => .around text new []
  | .around before _ after, new => .around before new after

/-- The first characters of each part, as many in all as the count says. -/
def keep : Layout → Nat → Layout
  | .settled text, count => .settled (text.take count)
  | .around before composed after, count =>
    .around (before.take count) (composed.take (count - before.length))
      (after.take (count - (before ++ composed).length))

def edit (layout : Layout) : Edit → Layout
  | .compose new => layout.replace new
  | .commit new => .settled (layout.replace new).text
  | .finish => .settled layout.text
  | .delete count => layout.keep (layout.text.length - count.toNat)
  | .take => .settled []

@[simp] theorem accumulator_text (layout : Layout) : layout.accumulator.text = layout.text := by
  cases layout <;> rfl

theorem accumulator_wellFormed (layout : Layout) : layout.accumulator.WellFormed := by
  cases layout with
  | settled text => exact nofun
  | around before composed after =>
      rintro span ⟨⟩
      exact Span.fits_parts before composed after

private theorem keep_text (layout : Layout) (count : Nat) :
    (layout.keep count).text = layout.text.take count := by
  cases layout with
  | settled text => rfl
  | around before composed after => simp only [keep, text, List.take_append]

/-- What goes is the end of the text, as long as asked for or as long as there is text. -/
theorem keep_removed (layout : Layout) (count : Nat) :
    ∃ removed, (layout.keep (layout.text.length - count)).text ++ removed = layout.text ∧
      removed.length = min count layout.text.length := by
  refine ⟨layout.text.drop (layout.text.length - count), ?_, ?_⟩
  · rw [keep_text, List.take_append_drop]
  · rw [List.length_drop]
    omega

private theorem replaced?_eq (layout : Layout) (new : List Char) :
    layout.accumulator.replaced? new = some (layout.replace new).text := by
  cases layout with
  | settled text => simp [Accumulator.replaced?, accumulator, replace, Layout.text]
  | around before composed after => exact replaceRange?_append before composed after new

private theorem replaced_eq (layout : Layout) (new : List Char) :
    layout.accumulator.replaced new = (layout.replace new).text := by
  rw [Accumulator.replaced, replaced?_eq, Option.getD_some]

theorem setComposing_eq (layout : Layout) (new : List Char) :
    layout.accumulator.setComposing new = (layout.replace new).accumulator := by
  rw [Accumulator.setComposing, replaced_eq]
  cases layout with
  | settled text => rfl
  | around before composed after => rfl

theorem commit_eq (layout : Layout) (new : List Char) :
    layout.accumulator.commit new = (Layout.settled (layout.replace new).text).accumulator := by
  rw [Accumulator.commit, replaced_eq]
  rfl

theorem finish_eq (layout : Layout) :
    layout.accumulator.finish = (Layout.settled layout.text).accumulator := by
  rw [Accumulator.finish, accumulator_text]
  rfl

theorem deleteBefore_eq (layout : Layout) (count : Nat) :
    layout.accumulator.deleteBefore count =
      ((layout.keep (layout.text.length - count)).accumulator, min count layout.text.length) := by
  rw [Accumulator.deleteBefore, accumulator_text]
  generalize layout.text.length - count = kept
  cases layout with
  | settled text => rfl
  | around before composed after =>
      -- Both ends of the span come back to the ends of what is left of the composed part.
      have stop := min_byteLength_take (before ++ composed) after kept
      have start := min_byteLength_take before composed kept
      rw [byteLength_append] at stop
      simp only [accumulator, keep, text, Option.map_some, Span.within, stop, start]
      rw [List.take_append, List.take_append, byteLength_append]

theorem deleteCounted_eq (layout : Layout) (count : UInt64) :
    layout.accumulator.deleteCounted count.toNat =
      .ok ((layout.keep (layout.text.length - count.toNat)).accumulator,
        min count.toNat layout.text.length) := by
  rw [Accumulator.deleteCounted_eq _ (Nat.le_of_lt_succ count.toNat_lt), deleteBefore_eq]

/-- An edit of the accumulator is the edit of the parts. -/
theorem perform_eq (layout : Layout) (edit : Edit) :
    layout.accumulator.perform edit = .ok (layout.edit edit).accumulator := by
  cases edit with
  | compose new =>
      rw [perform, if_pos (by rw [replaced?_eq, Option.isSome_some]), setComposing_eq, Layout.edit]
  | commit new =>
      rw [perform, if_pos (by rw [replaced?_eq, Option.isSome_some]), commit_eq, Layout.edit]
  | finish => rw [perform, finish_eq, Layout.edit]
  | delete count => rw [perform, deleteCounted_eq, Layout.edit, Except.map]
  | take => rfl

private theorem foldlM_perform_eq (layout : Layout) (edits : List Edit) :
    edits.foldlM perform layout.accumulator = .ok (edits.foldl Layout.edit layout).accumulator := by
  induction edits generalizing layout with
  | nil => rfl
  | cons edit rest ih =>
      rw [List.foldlM_cons, perform_eq]
      exact ih (layout.edit edit)

/-- The bytes before the composed part and those after it stay as they are. -/
theorem replace_utf8Encode (layout : Layout) (new : List Char) :
    (layout.replace new).text.utf8Encode =
      layout.text.utf8Encode.extract 0 layout.accumulator.insertionStart ++ new.utf8Encode ++
        layout.text.utf8Encode.extract layout.accumulator.insertionStop
          (byteLength layout.text) := by
  cases layout with
  | settled text =>
      have whole := extract_front text []
      have nothing := extract_back text []
      rw [List.append_nil] at whole nothing
      simp only [replace, Layout.text, accumulator, insertionStart, insertionStop]
      rw [whole, nothing, List.utf8Encode_append, List.utf8Encode_append, List.utf8Encode_nil]
  | around before composed after =>
      have front := extract_front before (composed ++ after)
      have back := extract_back (before ++ composed) after
      rw [← List.append_assoc] at front
      rw [byteLength_append before] at back
      simp only [replace, Layout.text, accumulator, insertionStart, insertionStop]
      rw [front, back, List.utf8Encode_append, List.utf8Encode_append]

end Layout

namespace Accumulator

private theorem WellFormed.exists_layout {acc : Accumulator} (wellFormed : acc.WellFormed) :
    ∃ layout : Layout, layout.accumulator = acc := by
  obtain ⟨text, composing⟩ := acc
  cases composing with
  | none => exact ⟨.settled text, rfl⟩
  | some span =>
      obtain ⟨before, composed, after, rfl, rfl⟩ := (wellFormed span rfl).parts
      exact ⟨.around before composed after, rfl⟩

end Accumulator

/-- From every accumulator whose composing span fits its text, no edit breaks off and every
edit leaves such an accumulator, however many follow one another. New text takes the place of
the bytes of the span, or comes to the end, and all other bytes stay; while it is composed the
new span is the new text. A deletion takes the last characters, as many as asked for or as
there are, and says how many. -/
theorem edits_keep_wellFormed {acc : Accumulator} (wellFormed : acc.WellFormed) :
    (∀ new, ∃ text, acc.replaced? new = some text ∧
      text.utf8Encode =
        acc.text.utf8Encode.extract 0 acc.insertionStart ++ new.utf8Encode ++
          acc.text.utf8Encode.extract acc.insertionStop (byteLength acc.text) ∧
      acc.setComposing new =
        ⟨text, some ⟨acc.insertionStart, acc.insertionStart + byteLength new⟩⟩ ∧
      acc.commit new = ⟨text, none⟩ ∧
      (acc.setComposing new).WellFormed ∧ (acc.commit new).WellFormed) ∧
    (acc.finish.text = acc.text ∧ acc.finish.WellFormed) ∧
    (∀ count : UInt64, ∃ rest removed,
      acc.deleteCounted count.toNat = .ok (rest, removed.length) ∧
      acc.deleteBefore count.toNat = (rest, removed.length) ∧
      rest.text ++ removed = acc.text ∧ removed.length = min count.toNat acc.text.length ∧
      rest.WellFormed) ∧
    (acc.take.2 = acc.text ∧ acc.take.1.WellFormed) ∧
    ∀ edits : List Edit, ∃ last, edits.foldlM perform acc = .ok last ∧ last.WellFormed := by
  obtain ⟨layout, rfl⟩ := wellFormed.exists_layout
  refine ⟨fun new => ?_, ⟨rfl, ?_⟩, fun count => ?_, ⟨rfl, ?_⟩, fun edits => ?_⟩
  · refine ⟨(layout.replace new).text, layout.replaced?_eq new, ?_, ?_, ?_, ?_, ?_⟩
    · rw [layout.accumulator_text]
      exact layout.replace_utf8Encode new
    · rw [Accumulator.setComposing, layout.replaced_eq]
    · rw [Accumulator.commit, layout.replaced_eq]
    · rw [layout.setComposing_eq]
      exact (layout.replace new).accumulator_wellFormed
    · rw [layout.commit_eq]
      exact Layout.accumulator_wellFormed _
  · rw [layout.finish_eq]
    exact Layout.accumulator_wellFormed _
  · obtain ⟨removed, parts, length⟩ := layout.keep_removed count.toNat
    refine ⟨_, removed, ?_, ?_, ?_, ?_,
      (layout.keep (layout.text.length - count.toNat)).accumulator_wellFormed⟩
    · rw [layout.deleteCounted_eq, length]
    · rw [layout.deleteBefore_eq, length]
    · rw [Layout.accumulator_text, Layout.accumulator_text, parts]
    · rw [length, layout.accumulator_text]
  · exact Layout.accumulator_wellFormed (.settled [])
  · exact ⟨_, layout.foldlM_perform_eq edits, Layout.accumulator_wellFormed _⟩

/-- A letter and a sign of four bytes are composed between a sign of three bytes and another
letter. A deletion of two takes what is behind the span and cuts the span short, and the next
text takes the place of what is left of it. -/
theorem edits_keep_wellFormed_inside :
    let acc : Accumulator := ⟨['你', 'a', '😀', 'b'], some ⟨3, 8⟩⟩
    let rest : Accumulator := ⟨['你', 'a'], some ⟨3, 4⟩⟩
    let edits : List Edit := [.delete 2, .compose ['好'], .delete 5, .commit ['!']]
    acc.WellFormed ∧ acc.deleteCounted 2 = .ok (rest, 2) ∧ rest.WellFormed ∧
      ∃ last, edits.foldlM perform acc = .ok last ∧ last.WellFormed := by
  intro acc rest edits
  have wellFormed : acc.WellFormed := by decide
  obtain ⟨-, -, deletions, -, runs⟩ := edits_keep_wellFormed wellFormed
  obtain ⟨left, removed, counted, deleted, -, -, leftFits⟩ := deletions 2
  have shortened : acc.deleteBefore (UInt64.toNat 2) = (rest, 2) := by decide
  obtain ⟨rfl, two⟩ := Prod.mk.inj (shortened.symm.trans deleted)
  rw [← two] at counted
  exact ⟨wellFormed, counted, leftFits, runs edits⟩

end TtyFrame.Composition

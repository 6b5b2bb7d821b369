import TtyFrame.Composition.Accumulator

/-! Byte offsets that fall between characters, and the invariant of the accumulator. An
edit fits whenever the composing span covers the whole text, and every operation gives
such an accumulator back. -/

set_option autoImplicit false

namespace TtyFrame.Composition

@[simp] theorem byteLength_append (front back : List Char) :
    byteLength (front ++ back) = byteLength front + byteLength back := by
  induction front with
  | nil => simp [byteLength]
  | cons c rest ih => simp only [List.cons_append, byteLength, ih, Nat.add_assoc]

theorem byteLength_pos_iff {text : List Char} : 0 < byteLength text ↔ text ≠ [] := by
  cases text with
  | nil => simp [byteLength]
  | cons c rest =>
      have positive := c.utf8Size_pos
      simp only [byteLength, ne_eq, reduceCtorEq, not_false_eq_true, iff_true]
      omega

theorem splitAtByte?_zero (text : List Char) : splitAtByte? text 0 = some ([], text) := by
  cases text <;> rfl

theorem splitAtByte?_cons {c : Char} {rest : List Char} {offset : Nat}
    (fits : c.utf8Size ≤ offset) :
    splitAtByte? (c :: rest) offset =
      (splitAtByte? rest (offset - c.utf8Size)).map fun parts => (c :: parts.1, parts.2) := by
  have positive := c.utf8Size_pos
  cases offset with
  | zero => omega
  | succ offset => simp only [splitAtByte?, if_pos fits]

/-- The byte length of a beginning is an offset that cuts no character. -/
theorem splitAtByte?_append (front back : List Char) :
    splitAtByte? (front ++ back) (byteLength front) = some (front, back) := by
  induction front with
  | nil => exact splitAtByte?_zero back
  | cons c rest ih =>
      rw [List.cons_append, byteLength, splitAtByte?_cons (Nat.le_add_right _ _),
        Nat.add_sub_cancel_left, ih]
      rfl

/-- A range of bytes between two characters gives way to new text, and nothing else
changes. -/
theorem replaceRange?_append (front middle back new : List Char) :
    replaceRange? (front ++ middle ++ back)
        ⟨byteLength front, byteLength front + byteLength middle⟩ new =
      some (front ++ new ++ back) := by
  have atStart : splitAtByte? (front ++ middle ++ back) (byteLength front) =
      some (front, middle ++ back) := by
    rw [List.append_assoc, splitAtByte?_append]
  have atStop : splitAtByte? (front ++ middle ++ back)
      (byteLength front + byteLength middle) = some (front ++ middle, back) := by
    rw [← byteLength_append, splitAtByte?_append]
  simp only [replaceRange?, atStart, atStop, Nat.le_add_right, if_true]

namespace Accumulator

/-- The composing span covers the whole text; without a span there is no text. -/
def Whole (acc : Accumulator) : Prop :=
  match acc.composing with
  | some span => span = ⟨0, byteLength acc.text⟩
  | none => acc.text = []

@[simp] theorem whole_empty : Whole {} := rfl

theorem Whole.cases {acc : Accumulator} (whole : acc.Whole) :
    acc.composing = some ⟨0, byteLength acc.text⟩ ∨
      (acc.composing = none ∧ acc.text = []) := by
  unfold Whole at whole
  cases composing : acc.composing with
  | none => exact .inr ⟨rfl, by simpa only [composing] using whole⟩
  | some span =>
      refine .inl ?_
      rw [composing] at whole
      exact congrArg some whole

/-- New text always fits, and it replaces all that was there. -/
theorem Whole.replaced? {acc : Accumulator} (whole : acc.Whole) (new : List Char) :
    acc.replaced? new = some new := by
  rcases whole.cases with covered | ⟨closed, empty⟩
  · have edit := replaceRange?_append [] acc.text [] new
    simp only [byteLength, Nat.zero_add, List.nil_append, List.append_nil] at edit
    simpa only [Accumulator.replaced?, covered] using edit
  · simp only [Accumulator.replaced?, closed, empty, List.nil_append]

theorem Whole.replaced {acc : Accumulator} (whole : acc.Whole) (new : List Char) :
    acc.replaced new = new := by
  rw [Accumulator.replaced, whole.replaced?, Option.getD_some]

theorem Whole.insertionStart {acc : Accumulator} (whole : acc.Whole) :
    acc.insertionStart = 0 := by
  rcases whole.cases with covered | ⟨closed, empty⟩
  · simp only [Accumulator.insertionStart, covered]
  · simp only [Accumulator.insertionStart, closed, empty, byteLength]

theorem Whole.hasComposing_iff {acc : Accumulator} (whole : acc.Whole) :
    acc.hasComposing = true ↔ acc.text ≠ [] := by
  rcases whole.cases with covered | ⟨closed, empty⟩
  · simp only [hasComposing, covered, decide_eq_true_eq, byteLength_pos_iff]
  · simp [hasComposing, closed, empty]

theorem Whole.setComposing {acc : Accumulator} (whole : acc.Whole) (new : List Char) :
    acc.setComposing new = { text := new, composing := some ⟨0, byteLength new⟩ } := by
  rw [Accumulator.setComposing, whole.replaced, whole.insertionStart, Nat.zero_add]

theorem Whole.commit {acc : Accumulator} (whole : acc.Whole) (new : List Char) :
    acc.commit new = { text := new, composing := none } := by
  rw [Accumulator.commit, whole.replaced]

theorem deleteBefore_text (acc : Accumulator) (count : Nat) :
    (acc.deleteBefore count).1.text = acc.text.take (acc.text.length - count) := rfl

theorem deleteBefore_count (acc : Accumulator) (count : Nat) :
    (acc.deleteBefore count).2 = min count acc.text.length := rfl

theorem Whole.deleteBefore {acc : Accumulator} (whole : acc.Whole) (count : Nat) :
    (acc.deleteBefore count).1.Whole := by
  rcases whole.cases with covered | ⟨closed, empty⟩
  · have split := byteLength_append (acc.text.take (acc.text.length - count))
      (acc.text.drop (acc.text.length - count))
    rw [List.take_append_drop] at split
    -- The end of the span follows the end of the text that is left.
    have shorter : byteLength (acc.text.take (acc.text.length - count)) ≤
        byteLength acc.text := by omega
    simp only [Whole, Accumulator.deleteBefore, covered, Option.map_some, Span.within,
      Nat.min_eq_right shorter, Nat.zero_min]
  · simp [Whole, Accumulator.deleteBefore, closed, empty]

end Accumulator

end TtyFrame.Composition

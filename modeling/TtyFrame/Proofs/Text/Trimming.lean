import TtyFrame.Text.Blank

/-! Trimming takes away the blanks at either end of a text, all of them and nothing else. -/

set_option autoImplicit false

namespace TtyFrame.Text

/-- What is left of a text without the blanks at either end. -/
structure Trimmed (text inner : List Char) : Prop where
  around : ∃ before after, text = before ++ inner ++ after ∧
    (∀ c ∈ before, isBlank c = true) ∧ ∀ c ∈ after, isBlank c = true
  start : ∀ c ∈ inner.head?, isBlank c = false
  stop : ∀ c ∈ inner.getLast?, isBlank c = false

section Start

private theorem dropWhile_blank_append (text : List Char) :
    ∃ before, text = before ++ text.dropWhile isBlank ∧ ∀ c ∈ before, isBlank c = true :=
  ⟨text.takeWhile isBlank, List.takeWhile_append_dropWhile.symm,
    List.all_eq_true.mp List.all_takeWhile⟩

private theorem dropWhile_blank_head (text : List Char) :
    ∀ c ∈ (text.dropWhile isBlank).head?, isBlank c = false := by
  intro c first
  have kept := List.head?_dropWhile_not isBlank text
  rw [first] at kept
  exact kept

private theorem dropWhile_blank_eq {before inner : List Char}
    (blank : ∀ c ∈ before, isBlank c = true)
    (start : ∀ c ∈ inner.head?, isBlank c = false) :
    (before ++ inner).dropWhile isBlank = inner := by
  rw [List.dropWhile_append_of_pos blank]
  cases inner with
  | nil => rfl
  | cons c rest =>
    rw [List.dropWhile_cons_of_neg]
    rw [start c rfl]
    exact Bool.false_ne_true

end Start

section Stop

theorem trimEnd_append (text : List Char) :
    ∃ after, text = trimEnd text ++ after ∧ ∀ c ∈ after, isBlank c = true := by
  obtain ⟨before, split, blank⟩ := dropWhile_blank_append text.reverse
  refine ⟨before.reverse, ?_, fun c member => blank c (List.mem_reverse.mp member)⟩
  rw [trimEnd, ← List.reverse_append, ← split, List.reverse_reverse]

private theorem trimEnd_getLast (text : List Char) :
    ∀ c ∈ (trimEnd text).getLast?, isBlank c = false := by
  rw [trimEnd, List.getLast?_reverse]
  exact dropWhile_blank_head text.reverse

theorem trimEnd_eq {inner after : List Char} (blank : ∀ c ∈ after, isBlank c = true)
    (stop : ∀ c ∈ inner.getLast?, isBlank c = false) : trimEnd (inner ++ after) = inner := by
  rw [trimEnd, List.reverse_append, dropWhile_blank_eq, List.reverse_reverse]
  · exact fun c member => blank c (List.mem_reverse.mp member)
  · rwa [List.head?_reverse]

end Stop

theorem trim_trimmed (text : List Char) : Trimmed text (trim text) := by
  obtain ⟨before, split, leading⟩ := dropWhile_blank_append text
  obtain ⟨after, rest, trailing⟩ := trimEnd_append (text.dropWhile isBlank)
  refine ⟨⟨before, after, ?_, leading, trailing⟩, fun c first => ?_, trimEnd_getLast _⟩
  · rw [trim, List.append_assoc, ← rest]
    exact split
  · -- What is left starts where the blanks at the start have ended.
    refine dropWhile_blank_head text c ?_
    have same : (trimEnd (text.dropWhile isBlank)).head? = some c := first
    rw [rest, List.head?_append, same]
    rfl

theorem trim_eq_self {text : List Char} (start : ∀ c ∈ text.head?, isBlank c = false)
    (stop : ∀ c ∈ text.getLast?, isBlank c = false) : trim text = text := by
  have kept : text.dropWhile isBlank = text :=
    dropWhile_blank_eq (List.forall_mem_nil _) start
  have whole : trimEnd (text ++ []) = text := trimEnd_eq (List.forall_mem_nil _) stop
  rw [List.append_nil] at whole
  rw [trim, kept, whole]

/-- There is only one way to trim a text. -/
theorem Trimmed.eq_trim {text inner : List Char} (trimmed : Trimmed text inner) :
    inner = trim text := by
  obtain ⟨⟨before, after, rfl, leading, trailing⟩, start, stop⟩ := trimmed
  cases inner with
  | nil =>
    have blank : ∀ c ∈ before ++ [] ++ after, isBlank c = true := by
      rw [List.append_nil]
      exact List.forall_mem_append.mpr ⟨leading, trailing⟩
    have start : ∀ c ∈ ([] : List Char).head?, isBlank c = false := nofun
    have nothing := dropWhile_blank_eq blank start
    rw [List.append_nil] at nothing
    rw [trim, nothing]
    rfl
  | cons c rest =>
    have first : ∀ d ∈ (c :: rest ++ after).head?, isBlank d = false := start
    rw [trim, List.append_assoc, dropWhile_blank_eq leading first, trimEnd_eq trailing stop]

end TtyFrame.Text

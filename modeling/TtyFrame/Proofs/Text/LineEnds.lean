import TtyFrame.Text.LineEnd

/-! Line ends of a text. Joining pairs first and turning line feeds into carriage returns
after that does what one pass over the text does, and the pass loses no line end. It can be
made of the parts of a text by themselves, unless the cut goes through a pair. -/

set_option autoImplicit false

namespace TtyFrame.Text

/-- One pass from left to right: a pair and a line feed by itself become a carriage return,
and every other character is kept. -/
def singleReturns : List Char → List Char
  | '\r' :: '\n' :: rest => '\r' :: singleReturns rest
  | '\n' :: rest => '\r' :: singleReturns rest
  | c :: rest => c :: singleReturns rest
  | [] => []

/-- How many line ends there are: pairs, and carriage returns and line feeds by themselves. -/
def lineEnds : List Char → Nat
  | '\r' :: '\n' :: rest => lineEnds rest + 1
  | '\r' :: rest => lineEnds rest + 1
  | '\n' :: rest => lineEnds rest + 1
  | _ :: rest => lineEnds rest
  | [] => 0

/-- The cut between two texts goes through a pair. -/
def CutsPair (first second : List Char) : Prop :=
  first.getLast? = some '\r' ∧ second.head? = some '\n'

private theorem singleReturns_cons {c : Char} (other : c ≠ '\n') {rest : List Char}
    (apart : ¬ (c = '\r' ∧ rest.head? = some '\n')) :
    singleReturns (c :: rest) = c :: singleReturns rest := by
  rw [singleReturns]
  · rintro tail rfl rfl
    exact apart ⟨rfl, rfl⟩
  · exact other

theorem singleReturns_of_not_mem {text : List Char} (none : '\n' ∉ text) :
    singleReturns text = text := by
  induction text with
  | nil => rfl
  | cons c rest ih =>
    have other : c ≠ '\n' := fun same => none (same ▸ List.mem_cons_self)
    have behind : '\n' ∉ rest := fun member => none (List.mem_cons_of_mem c member)
    rw [singleReturns_cons other, ih behind]
    rintro ⟨-, fed⟩
    exact behind (List.mem_of_head? fed)

theorem not_mem_singleReturns (text : List Char) : '\n' ∉ singleReturns text := by
  fun_induction singleReturns text with
  | case1 rest ih => simpa using ih
  | case2 rest ih => simpa using ih
  | case3 c rest _ other ih => simpa using ⟨Ne.symm other, ih⟩
  | case4 => simp

/-- Turning line feeds into carriage returns after pairs are joined is the single pass. -/
theorem returnLineFeeds_joinLineEnds (text : List Char) :
    returnLineFeeds (joinLineEnds text) = singleReturns text := by
  fun_induction joinLineEnds text with
  | case1 rest ih =>
    rw [returnLineFeeds, List.map_cons, ← returnLineFeeds, ih, singleReturns]
    rfl
  | case2 c rest apart ih =>
    rw [returnLineFeeds, List.map_cons, ← returnLineFeeds, ih]
    by_cases feed : c = '\n'
    · subst feed
      rw [singleReturns]
      rfl
    · rw [if_neg feed, singleReturns_cons feed]
      rintro ⟨returned, fed⟩
      obtain ⟨tail, split⟩ := List.head?_eq_some_iff.mp fed
      exact apart tail returned split
  | case3 => rfl

theorem normalizeChars_eq (text : List Char) : normalizeChars text = singleReturns text := by
  unfold normalizeChars
  split
  · exact returnLineFeeds_joinLineEnds text
  · next none => exact (singleReturns_of_not_mem none).symm

theorem not_mem_normalizeChars (text : List Char) : '\n' ∉ normalizeChars text := by
  rw [normalizeChars_eq]
  exact not_mem_singleReturns text

private theorem count_singleReturns (text : List Char) :
    (singleReturns text).count '\r' = lineEnds text := by
  fun_induction singleReturns text with
  | case1 rest ih => rw [List.count_cons_self, ih, lineEnds]
  | case2 rest ih => rw [List.count_cons_self, ih, lineEnds]
  | case3 c rest apart other ih =>
    by_cases returned : c = '\r'
    · subst returned
      rw [List.count_cons_self, ih, lineEnds]
      exact fun tail => apart tail rfl
    · rw [List.count_cons_of_ne returned, ih, lineEnds]
      · exact fun tail same => absurd same returned
      · exact returned
      · exact other
  | case4 => rfl

private theorem lineEnds_of_not_mem {text : List Char} (none : '\n' ∉ text) :
    lineEnds text = text.count '\r' := by
  rw [← count_singleReturns, singleReturns_of_not_mem none]

theorem lineEnds_singleReturns (text : List Char) :
    lineEnds (singleReturns text) = lineEnds text := by
  rw [lineEnds_of_not_mem (not_mem_singleReturns text), count_singleReturns]

theorem CutsPair.cons {first second : List Char} (cuts : CutsPair first second) (c : Char) :
    CutsPair (c :: first) second := by
  obtain ⟨returned, fed⟩ := cuts
  exact ⟨by rw [List.getLast?_cons, returned, Option.getD_some], fed⟩

theorem singleReturns_append {first second : List Char} (whole : ¬ CutsPair first second) :
    singleReturns (first ++ second) = singleReturns first ++ singleReturns second := by
  fun_induction singleReturns first with
  | case1 rest ih =>
    rw [List.cons_append, List.cons_append, singleReturns,
      ih fun cuts => whole ((cuts.cons _).cons _), List.cons_append]
  | case2 rest ih =>
    rw [List.cons_append, singleReturns, ih fun cuts => whole (cuts.cons _), List.cons_append]
  | case3 c rest apart other ih =>
    rw [List.cons_append, singleReturns_cons other, ih fun cuts => whole (cuts.cons _),
      List.cons_append]
    rintro ⟨rfl, fed⟩
    cases rest with
    | nil => exact whole ⟨rfl, fed⟩
    | cons next tail =>
      obtain rfl : next = '\n' := Option.some.inj fed
      exact apart tail rfl rfl
  | case4 => rfl

private theorem not_cutsPair_return (first rest : List Char) : ¬ CutsPair first ('\r' :: rest) := by
  rintro ⟨-, fed⟩
  exact absurd (Option.some.inj fed) (by decide)

/-- The parts of a text can be taken by themselves exactly if no pair is cut; the halves of
one that is cut count as two line ends. -/
theorem singleReturns_append_iff (first second : List Char) :
    singleReturns (first ++ second) = singleReturns first ++ singleReturns second ↔
      ¬ CutsPair first second := by
  refine ⟨?_, singleReturns_append⟩
  rintro same ⟨returned, fed⟩
  obtain ⟨before, rfl⟩ := List.getLast?_eq_some_iff.mp returned
  obtain ⟨after, rfl⟩ := List.head?_eq_some_iff.mp fed
  have joined : singleReturns (before ++ ['\r'] ++ '\n' :: after) =
      singleReturns before ++ '\r' :: singleReturns after := by
    rw [List.append_assoc, List.singleton_append,
      singleReturns_append (not_cutsPair_return before _), singleReturns]
  have halves : singleReturns (before ++ ['\r']) = singleReturns before ++ ['\r'] :=
    singleReturns_append (not_cutsPair_return before [])
  rw [joined, halves, singleReturns] at same
  have lengths := congrArg List.length same
  simp only [List.length_append, List.length_cons, List.length_nil] at lengths
  omega

end TtyFrame.Text

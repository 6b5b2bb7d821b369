import TtyFrame.Proofs.Screen.Window
import TtyFrame.Proofs.Scroll.Machine
import TtyFrame.Screen.Walk

/-! The walk over a window with machine numbers. It delivers the runs of the lines between
the oldest line and the bottom of the screen as these numbers have them, unless a line number
runs over, and which windows that happens to is a matter of a few comparisons. -/

set_option autoImplicit false

namespace TtyFrame.Screen

/-! ## The sweep over a line -/

/-- The run under way has come as far as the sweep. -/
private theorem sweep_eq_groupFrom (overrides : Overrides) (row : Nat) {column start : Nat}
    (style : TextStyle) {text : Array Char} (reached : start + text.size = column)
    (glyphs : List Glyph) :
    sweep overrides row column start (some style) text glyphs =
      groupFrom overrides row start style text.toList.reverse glyphs := by
  induction glyphs generalizing column start style text with
  | nil => rw [sweep, groupFrom, List.reverse_reverse]
  | cons glyph rest ih =>
      rw [sweep, groupFrom]
      by_cases joins : glyph.style overrides = style
      · have kept : (some style).filter (· ≠ glyph.style overrides) = none := by simp [joins]
        have longer : start + (text.push glyph.shown).size = column + 1 := by
          rw [Array.size_push]
          omega
        simp only [kept, if_pos joins]
        rw [joins, ih style longer, Array.toList_push, List.reverse_append]
        rfl
      · have left : (some style).filter (· ≠ glyph.style overrides) = some style := by
          simp [Option.filter, Ne.symm joins]
        simp only [left, if_neg joins, List.reverse_reverse, List.length_reverse,
          Array.length_toList, reached]
        have started : column + #[glyph.shown].size = column + 1 := rfl
        rw [ih (glyph.style overrides) started]
        rfl

theorem sweep_eq_groupRuns (overrides : Overrides) (row : Nat) (glyphs : List Glyph) :
    sweep overrides row 0 0 none #[] glyphs = groupRuns overrides row glyphs := by
  cases glyphs with
  | nil => rfl
  | cons glyph rest => exact sweep_eq_groupFrom overrides row _ (by rfl) rest

/-! ## Line numbers -/

open Scroll (maxReach saturate)

private theorem addLines_eq (first second : Int32) (low : -2147483648 ≤ first.toInt + second.toInt)
    (high : first.toInt + second.toInt ≤ 2147483647) :
    ∃ sum, addLines first second = .ok sum ∧ sum.toInt = first.toInt + second.toInt := by
  have fits : saturate (first.toInt + second.toInt) = first.toInt + second.toInt := by
    unfold saturate
    omega
  refine ⟨_, if_pos fits, ?_⟩
  rw [Int32.toInt_ofInt_of_le] <;> omega

private theorem addLines_overflow {first second : Int32}
    (low : first.toInt + second.toInt < -2147483648) :
    addLines first second = .error .overflow := by
  refine if_neg ?_
  unfold saturate
  omega

private theorem toInt_ofNat_le (count : Nat) : (Int32.ofNat count).toInt ≤ count := by
  have value : (Int32.ofNat count).toInt = (count : Int).bmod 4294967296 := Int32.toInt_ofNat'
  rw [value, Int.bmod_def]
  split <;> omega

private theorem toInt_ofNat_of_reach {count : Nat} (within : count ≤ maxReach) :
    (Int32.ofNat count).toInt = count := by
  unfold maxReach at within
  exact Int32.toInt_ofNat_of_lt (by omega)

namespace State

/-- The number of the oldest line: less than nothing by the length of the history, as far as
this is a machine number. -/
def topLine (state : State) : Int := -(Int32.ofNat state.grid.history.size).toInt

/-- The number of the line below the screen, in the same way. -/
def bottomLine (state : State) : Int := state.bottom.toInt

/-- No line number runs over on the walk over a window: the oldest line has one, and the walk
ends before the row that no line number can be added for. -/
def Walkable (state : State) (origin : Int32) (rows : Nat) : Prop :=
  state.topLine ≤ maxReach ∧
    (rows ≤ maxReach + 1 ∨ max state.topLine state.bottomLine - origin.toInt ≤ maxReach)

instance (state : State) (origin : Int32) (rows : Nat) : Decidable (state.Walkable origin rows) :=
  inferInstanceAs (Decidable (_ ∧ _))

theorem history_le_topLine (state : State) :
    -(state.grid.history.size : Int) ≤ state.topLine := by
  have := toInt_ofNat_le state.grid.history.size
  unfold topLine
  omega

theorem bottomLine_le_lines (state : State) : state.bottomLine ≤ state.lines :=
  toInt_ofNat_le state.lines

theorem topLine_eq {state : State} (within : state.grid.history.size ≤ maxReach) :
    state.topLine = -(state.grid.history.size : Int) :=
  congrArg (- ·) (toInt_ofNat_of_reach within)

theorem bottomLine_eq {state : State} (within : state.lines ≤ maxReach) :
    state.bottomLine = state.lines := toInt_ofNat_of_reach within

/-- From any line of the history on, all lines down to the bottom of the screen have numbers. -/
theorem walkable_of_within {state : State}
    (within : state.grid.history.size + state.lines ≤ maxReach) {origin : Int32}
    (kept : -(state.grid.history.size : Int) ≤ origin.toInt) (rows : Nat) :
    state.Walkable origin rows := by
  have top : state.topLine = _ := topLine_eq (by omega)
  have bottom : state.bottomLine = _ := bottomLine_eq (by omega)
  unfold Walkable
  omega

theorem oldest_eq {state : State} (numbered : state.topLine ≤ maxReach) :
    ∃ top, state.oldest = .ok top ∧ top.toInt = state.topLine := by
  have notLeast : Int32.ofNat state.grid.history.size ≠ Int32.minValue := by
    rw [ne_eq, Scroll.Machine.toInt_eq_least_iff]
    unfold topLine maxReach at numbered
    omega
  obtain ⟨top, negated, value⟩ := Scroll.Machine.negate?_toInt notLeast
  refine ⟨top, ?_, value⟩
  rw [oldest, negated]

private theorem oldest_overflow {state : State} (lost : ¬ state.topLine ≤ maxReach) :
    state.oldest = .error .overflow := by
  have least : Int32.ofNat state.grid.history.size = Int32.minValue := by
    have low := (Int32.ofNat state.grid.history.size).le_toInt
    rw [Scroll.Machine.toInt_eq_least_iff]
    unfold topLine maxReach at lost
    omega
  rw [oldest, Scroll.Machine.negate?, if_pos least]

/-! ## The walk -/

theorem cells_eq {state : State} (rectangular : state.grid.Rectangular) (line : Int32)
    (kept : -(state.grid.history.size : Int) ≤ line.toInt) (shown : line.toInt < state.lines) :
    ∃ row, state.grid.row? line.toInt = some row ∧ state.cells line = .ok row.cells.toList := by
  obtain ⟨row, found, size⟩ := rectangular.exists_row? kept shown
  have width : row.size = state.columns := size
  have whole : row.cells.toList.take state.columns = row.cells.toList := by
    rw [← width, Row.size, ← Array.length_toList, List.take_length]
  refine ⟨row, found, ?_⟩
  simp only [cells, found, width, Nat.le_refl, if_true, whole]

section

variable {state : State} {origin top bottom : Int32} (rectangular : state.grid.Rectangular)
  (oldest : -(state.grid.history.size : Int) ≤ top.toInt) (newest : bottom.toInt ≤ state.lines)

include rectangular oldest newest

private theorem walkFrom_step {row : Nat} (counted : row ≤ maxReach)
    (within : origin.toInt + row ≤ maxReach) (left : Nat) :
    state.walkFrom origin top bottom row (left + 1) =
      if origin.toInt + row < top.toInt then state.walkFrom origin top bottom (row + 1) left
      else if bottom.toInt ≤ origin.toInt + row then .ok []
      else (state.walkFrom origin top bottom (row + 1) left).map
        (state.rowRuns origin.toInt row ++ ·) := by
  have low := origin.le_toInt
  have number : (Int32.ofNat row).toInt = row := toInt_ofNat_of_reach counted
  unfold maxReach at counted within
  obtain ⟨line, added, value⟩ := addLines_eq origin (Int32.ofNat row) (by omega) (by omega)
  rw [number] at value
  simp only [walkFrom, added, Word.ok_bind, Int32.lt_iff_toInt_lt, Int32.le_iff_toInt_le, value]
  split
  · rfl
  · next kept =>
    split
    · rfl
    · next shown =>
      obtain ⟨cells, found, taken⟩ := cells_eq rectangular line (by omega) (by omega)
      rw [value] at found
      rw [taken, Word.ok_bind, rowRuns, found]
      simp only [sweep_eq_groupRuns]
      cases state.walkFrom origin top bottom (row + 1) left <;> rfl

/-- The rows that the walk still comes to are those of the window from its row on. It stays
within the line numbers as long as it has not passed the lines that end it. -/
theorem walkFrom_eq {row left : Nat}
    (short : row + left ≤ maxReach + 1 ∨ max top.toInt bottom.toInt - origin.toInt ≤ maxReach)
    (above : row = 0 ∨ origin.toInt + row ≤ max top.toInt bottom.toInt) :
    let first := max row (top.toInt - origin.toInt).toNat
    let stop := min (row + left) (bottom.toInt - origin.toInt).toNat
    state.walkFrom origin top bottom row left =
      .ok ((List.range' first (stop - first)).flatMap (state.rowRuns origin.toInt)) := by
  induction left generalizing row with
  | zero =>
      have nothing : min (row + 0) (bottom.toInt - origin.toInt).toNat -
          max row (top.toInt - origin.toInt).toNat = 0 := by omega
      dsimp only
      rw [nothing]
      rfl
  | succ left ih =>
      have high := origin.toInt_lt
      have topMost := top.toInt_lt
      have bottomMost := bottom.toInt_lt
      have counted : row ≤ maxReach := by omega
      have within : origin.toInt + row ≤ maxReach := by
        unfold maxReach
        omega
      dsimp only at ih ⊢
      rw [walkFrom_step rectangular oldest newest counted within]
      split
      · next passed =>
        rw [ih (by omega) (by omega)]
        congr 3 <;> omega
      · next kept =>
        split
        · next ended =>
          have nothing : min (row + (left + 1)) (bottom.toInt - origin.toInt).toNat -
              max row (top.toInt - origin.toInt).toNat = 0 := by omega
          rw [nothing]
          rfl
        · next shown =>
          -- The row is the first one of those that are left.
          have here : max row (top.toInt - origin.toInt).toNat = row := by omega
          have next : max (row + 1) (top.toInt - origin.toInt).toNat = row + 1 := by omega
          have count : min (row + (left + 1)) (bottom.toInt - origin.toInt).toNat - row =
              min (row + 1 + left) (bottom.toInt - origin.toInt).toNat - (row + 1) + 1 := by
            omega
          rw [ih (by omega) (by omega), here, next, count, List.range'_succ, List.flatMap_cons]
          rfl

/-- A window that reaches down past all line numbers runs over. -/
theorem walkFrom_overflow {row left : Nat} (long : maxReach + 1 < row + left)
    (deep : maxReach < max top.toInt bottom.toInt - origin.toInt) (counted : row ≤ maxReach + 1) :
    state.walkFrom origin top bottom row left = .error .overflow := by
  have topMost := top.toInt_lt
  have bottomMost := bottom.toInt_lt
  induction left generalizing row with
  | zero => omega
  | succ left ih =>
      unfold maxReach at *
      by_cases past : row = 2147483648
      · have number : (Int32.ofNat row).toInt = -2147483648 := by
          rw [past]
          decide
        have lost : addLines origin (Int32.ofNat row) = .error .overflow :=
          addLines_overflow (by omega)
        rw [walkFrom, lost]
        rfl
      · rw [walkFrom_step rectangular oldest newest (by unfold maxReach; omega)
          (by unfold maxReach; omega), ih (by omega) (by omega)]
        split
        · rfl
        · rw [if_neg (by omega)]
          rfl

/-- Rows above the top line may be passed over in one go. -/
theorem walkFrom_passed {count rows : Nat} (within : count ≤ rows) (counted : count ≤ maxReach + 1)
    (above : (count : Int) ≤ (top.toInt - origin.toInt).toNat) :
    state.walkFrom origin top bottom 0 rows =
      state.walkFrom origin top bottom count (rows - count) := by
  have topMost := top.toInt_lt
  induction count with
  | zero => rfl
  | succ count ih =>
      have left : rows - count = rows - (count + 1) + 1 := by omega
      rw [ih (by omega) (by omega) (by omega), left,
        walkFrom_step rectangular oldest newest (by omega) (by unfold maxReach; omega),
        if_pos (by omega)]

end

/-- The walk is the one over all its rows, from the first one on. -/
theorem walk_eq_walkFrom {state : State} (rectangular : state.grid.Rectangular) (origin : Int32)
    (rows : Nat) :
    state.walk origin rows =
      state.oldest >>= fun top => state.walkFrom origin top state.bottom 0 rows := by
  by_cases numbered : state.topLine ≤ maxReach
  · obtain ⟨top, found, value⟩ := oldest_eq numbered
    have oldest : -(state.grid.history.size : Int) ≤ top.toInt := by
      rw [value]
      exact state.history_le_topLine
    rw [walk, found, Word.ok_bind, Word.ok_bind]
    exact (walkFrom_passed rectangular oldest state.bottomLine_le_lines (by omega) (by omega)
      (by omega)).symm
  · rw [walk, oldest_overflow numbered]
    rfl

/-- The walk over a window delivers the runs of its lines exactly if no line number runs
over. -/
theorem walk_eq {state : State} (rectangular : state.grid.Rectangular) (origin : Int32)
    (rows : Nat) :
    state.walk origin rows =
      if state.Walkable origin rows then
        .ok (state.runsBetween state.topLine state.bottomLine origin.toInt rows)
      else .error .overflow := by
  rw [walk_eq_walkFrom rectangular]
  by_cases numbered : state.topLine ≤ maxReach
  · obtain ⟨top, found, value⟩ := oldest_eq numbered
    have oldest : -(state.grid.history.size : Int) ≤ top.toInt := by
      rw [value]
      exact state.history_le_topLine
    have newest := state.bottomLine_le_lines
    rw [found, Word.ok_bind]
    split
    · next walkable =>
      obtain ⟨-, short⟩ := walkable
      rw [← value, bottomLine] at short
      rw [walkFrom_eq rectangular oldest newest (by omega) (.inl rfl), value]
      simp only [Nat.zero_add, Nat.zero_max]
      rfl
    · next lost =>
      have long : ¬ (rows ≤ maxReach + 1 ∨
          max state.topLine state.bottomLine - origin.toInt ≤ maxReach) :=
        fun short => lost ⟨numbered, short⟩
      rw [← value, bottomLine] at long
      exact walkFrom_overflow rectangular oldest newest (by omega) (by omega) (by omega)
  · rw [oldest_overflow numbered, if_neg fun walkable => numbered walkable.1]
    rfl

end State

end TtyFrame.Screen

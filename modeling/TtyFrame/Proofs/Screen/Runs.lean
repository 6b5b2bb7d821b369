import TtyFrame.Proofs.Frame.Writing
import TtyFrame.Screen.View

/-! How the cells of a line fall into runs. The runs of a line are its longest stretches
of one style, from left to right and without a gap, so that a run never ends within a
style and never reaches into another. -/

set_option autoImplicit false

namespace TtyFrame.Screen

/-- Glyphs from a column on, cut into runs on a row: each run is a stretch of glyphs of
its style, and the run after it has another style. -/
inductive Grouped (overrides : Overrides) (row : Nat) : Nat → List Glyph → List Run → Prop where
  | nil {start : Nat} : Grouped overrides row start [] []
  | cons {start : Nat} {style : TextStyle} {stretch rest : List Glyph} {runs : List Run} :
      stretch ≠ [] → (∀ glyph ∈ stretch, glyph.style overrides = style) →
      (∀ run ∈ runs.head?, run.style ≠ style) →
      Grouped overrides row (start + stretch.length) rest runs →
      Grouped overrides row start (stretch ++ rest)
        (⟨row, start, style, stretch.map Glyph.shown⟩ :: runs)

private theorem groupFrom_head_style (overrides : Overrides) (row start : Nat) (style : TextStyle)
    (before : List Char) (glyphs : List Glyph) :
    ∀ run ∈ (groupFrom overrides row start style before glyphs).head?, run.style = style := by
  induction glyphs generalizing before with
  | nil => simp [groupFrom]
  | cons glyph rest ih =>
      rw [groupFrom]
      split
      · exact ih _
      · simp

/-- The run under way is the stretch of glyphs that it has taken so far. -/
theorem groupFrom_grouped (overrides : Overrides) (row start : Nat) (style : TextStyle)
    (stretch : List Glyph) (taken : stretch ≠ [])
    (same : ∀ glyph ∈ stretch, glyph.style overrides = style) (glyphs : List Glyph) :
    Grouped overrides row start (stretch ++ glyphs)
      (groupFrom overrides row start style (stretch.map Glyph.shown).reverse glyphs) := by
  induction glyphs generalizing start style stretch with
  | nil =>
      rw [groupFrom, List.reverse_reverse]
      exact .cons taken same (by simp) .nil
  | cons glyph rest ih =>
      simp only [groupFrom]
      by_cases joins : glyph.style overrides = style
      · have longer : (stretch ++ [glyph]).map Glyph.shown =
            stretch.map Glyph.shown ++ [glyph.shown] := by simp
        have stillSame : ∀ other ∈ stretch ++ [glyph], other.style overrides = style := by
          intro other member
          rcases List.mem_append.mp member with before | last
          · exact same other before
          · rw [List.mem_singleton.mp last, joins]
        have grouped := ih start style (stretch ++ [glyph]) (by simp) stillSame
        rw [longer, List.reverse_append, List.append_assoc] at grouped
        rw [if_pos joins]
        exact grouped
      · rw [if_neg joins, List.reverse_reverse, List.length_reverse, List.length_map]
        refine .cons taken same ?_ ?_
        · intro run first
          rw [groupFrom_head_style _ _ _ _ _ _ run first]
          exact joins
        · exact ih _ _ [glyph] (by simp) (by simp)

theorem groupRuns_grouped (overrides : Overrides) (row : Nat) (glyphs : List Glyph) :
    Grouped overrides row 0 glyphs (groupRuns overrides row glyphs) := by
  cases glyphs with
  | nil => exact .nil
  | cons glyph rest => exact groupFrom_grouped _ _ _ _ [glyph] (by simp) (by simp) rest

namespace Grouped

variable {overrides : Overrides} {row start : Nat} {glyphs : List Glyph} {runs : List Run}

theorem row_eq (grouped : Grouped overrides row start glyphs runs) :
    ∀ run ∈ runs, run.row = row := by
  induction grouped with
  | nil => simp
  | cons _ _ _ _ ih =>
      intro run member
      rcases List.mem_cons.mp member with rfl | later
      · rfl
      · exact ih run later

theorem start_le (grouped : Grouped overrides row start glyphs runs) :
    ∀ run ∈ runs, start ≤ run.column := by
  induction grouped with
  | nil => simp
  | cons _ _ _ _ ih =>
      intro run member
      rcases List.mem_cons.mp member with rfl | later
      · exact Nat.le_refl _
      · exact Nat.le_trans (Nat.le_add_right _ _) (ih run later)

theorem head_style (grouped : Grouped overrides row start glyphs runs) {glyph : Glyph}
    (first : glyphs.head? = some glyph) :
    ∃ run ∈ runs.head?, run.style = glyph.style overrides := by
  cases grouped with
  | nil => cases first
  | @cons _ style stretch rest runs taken same _ _ =>
      cases stretch with
      | nil => exact absurd rfl taken
      | cons head tail =>
          have : head = glyph := Option.some.inj first
          subst this
          exact ⟨_, rfl, (same head List.mem_cons_self).symm⟩

end Grouped

end TtyFrame.Screen

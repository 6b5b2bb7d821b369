import TtyFrame.Proofs.Screen.Rows
import TtyFrame.Screen.Erasing
import TtyFrame.Screen.Writing

/-! The shape of a grid: its size, with as many rows on the screen as it has lines and all
columns in each row, and a history within its limit. Scrolling is what moves rows into the
history; everything else that is written leaves the rows where they are. -/

set_option autoImplicit false

namespace TtyFrame.Screen

namespace Row

theorem size_blank (columns : Nat) : (blank columns).size = columns := Array.size_replicate

theorem size_modify (row : Row) (column : Nat) (change : Glyph → Glyph) :
    (row.modify column change).size = row.size := Array.size_modify

theorem size_modifyLast (row : Row) (change : Glyph → Glyph) :
    (row.modifyLast change).size = row.size := Array.size_modify

theorem size_fill (row : Row) (start stop : Nat) (glyph : Glyph) :
    (row.fill start stop glyph).size = row.size := Array.size_mapIdx

theorem size_rebuild (row : Row) (glyphAt : Nat → Glyph) :
    (row.rebuild glyphAt).size = row.size := Array.size_mapIdx

theorem size_reset (row : Row) (background : CellColor) :
    (row.reset background).size = row.size := Array.size_mapIdx

def Spans (columns : Nat) (row : Row) : Prop := row.size = columns

theorem blanks_span (columns : Nat) : Blanks columns (Spans columns) :=
  ⟨size_blank columns, fun row background spans => (row.size_reset background).trans spans⟩

end Row

namespace Grid

/-- The rows of a grid have all its columns, and the screen has all its lines. -/
structure Rectangular (grid : Grid) : Prop where
  lines : grid.screen.size = grid.lines
  screen : ∀ row ∈ grid.screen, row.size = grid.columns
  history : ∀ row ∈ grid.history, row.size = grid.columns

structure Shaped (columns lines limit : Nat) (grid : Grid) : Prop extends
    grid.Rows (Row.Spans columns) where
  wide : grid.columns = columns
  high : grid.lines = lines
  limited : grid.limit = limit
  full : grid.screen.size = lines
  kept : grid.history.size ≤ limit

theorem blank_shaped (columns lines limit : Nat) :
    (blank columns lines limit).Shaped columns lines limit :=
  ⟨.blank (Row.blanks_span columns) lines limit, rfl, rfl, rfl, Array.size_replicate,
    Nat.zero_le _⟩

private theorem size_trimHistory (limit : Nat) (history : Array Row) :
    (trimHistory limit history).size ≤ limit := by
  unfold trimHistory
  split
  · assumption
  · rw [Array.size_extract]
    omega

private theorem size_incoming {grid : Grid} {count : Nat} (enough : count ≤ grid.screen.size) :
    (grid.incoming count).size = count := by
  simp only [incoming, Array.size_map, Array.size_append, Array.size_replicate, Array.size_extract]
  omega

namespace Shaped

variable {columns lines limit : Nat} {grid : Grid}

theorem blanks (shaped : grid.Shaped columns lines limit) :
    Row.Blanks grid.columns (Row.Spans columns) :=
  shaped.wide ▸ Row.blanks_span grid.columns

theorem modifyRow (shaped : grid.Shaped columns lines limit) (line : Nat) {change : Row → Row}
    (keeps : ∀ row, (change row).size = row.size) :
    (grid.modifyRow line change).Shaped columns lines limit :=
  { shaped with
    screen := shaped.screen.modify line fun row spans => (keeps row).trans spans
    full := Array.size_modify.trans shaped.full }

theorem modifyCursorGlyph (shaped : grid.Shaped columns lines limit) (column : Nat)
    (change : Glyph → Glyph) :
    (grid.modifyCursorRow (·.modify column change)).Shaped columns lines limit :=
  shaped.modifyRow _ fun row => row.size_modify column change

theorem modifyGlyph (shaped : grid.Shaped columns lines limit) (line : Int) (column : Nat)
    (change : Glyph → Glyph) : (grid.modifyGlyph line column change).Shaped columns lines limit := by
  unfold Grid.modifyGlyph
  split
  · exact
      { shaped with
        history := shaped.history.modify _ fun row spans => (row.size_modify _ _).trans spans
        kept := Array.size_modify.symm ▸ shaped.kept }
  · exact shaped.modifyRow _ fun row => row.size_modify column change

theorem resetLines (shaped : grid.Shaped columns lines limit) (region : Region) :
    (grid.resetLines region).Shaped columns lines limit :=
  { shaped.toRows.resetLines shaped.blanks region, shaped with
    full := Array.size_mapIdx.trans shaped.full }

/-- The rows that leave the screen at the top come in again at the bottom of the region. -/
theorem scrollUp (shaped : grid.Shaped columns lines limit) {region : Region}
    (within : region.stop ≤ lines) (count : Nat) :
    (grid.scrollUp region count).Shaped columns lines limit := by
  have tall := shaped.full
  have rows := shaped.toRows.scrollUp shaped.blanks region count
  unfold Grid.scrollUp at rows ⊢
  split
  · next top =>
    have enough : min count region.size ≤ grid.screen.size := by
      rw [Region.size]
      omega
    have trimmed := size_trimHistory grid.limit
      (grid.history ++ grid.screen.extract 0 (min count region.size))
    rw [if_pos top] at rows
    refine { rows, shaped with full := ?_, kept := shaped.limited ▸ trimmed }
    simp only [Array.size_append, Array.size_extract, size_incoming enough]
    rw [Region.size] at *
    omega
  · next below =>
    rw [if_neg below] at rows
    split
    · exact shaped.resetLines region
    · next fewer =>
      rw [if_neg fewer] at rows
      refine { rows, shaped with full := ?_ }
      rw [Region.size] at fewer
      simp only [Array.size_append, Array.size_map, Array.size_extract]
      omega

theorem scrollDown (shaped : grid.Shaped columns lines limit) {region : Region}
    (within : region.stop ≤ lines) (count : Nat) :
    (grid.scrollDown region count).Shaped columns lines limit := by
  have tall := shaped.full
  have rows := shaped.toRows.scrollDown shaped.blanks region count
  unfold Grid.scrollDown at rows ⊢
  split
  · exact shaped.resetLines region
  · next fewer =>
    rw [if_neg fewer] at rows
    refine { rows, shaped with full := ?_ }
    rw [Region.size] at fewer
    simp only [Array.size_append, Array.size_map, Array.size_extract]
    omega

theorem clearViewport (shaped : grid.Shaped columns lines limit) :
    grid.clearViewport.Shaped columns lines limit := by
  have within : (⟨0, grid.lines⟩ : Region).stop ≤ lines := Nat.le_of_eq shaped.high
  exact (shaped.scrollUp within _).resetLines _

theorem clearHistory (shaped : grid.Shaped columns lines limit) :
    grid.clearHistory.Shaped columns lines limit :=
  { shaped.toRows.clearHistory, shaped with kept := Nat.zero_le _ }

theorem reset (shaped : grid.Shaped columns lines limit) :
    grid.reset.Shaped columns lines limit := by
  have forgotten :
      Shaped columns lines limit { grid with history := #[], cursor := {}, saved := {} } :=
    { shaped.clearHistory with }
  exact forgotten.resetLines _

theorem eraseColumns (shaped : grid.Shaped columns lines limit) (start stop : Nat) :
    (grid.eraseColumns start stop).Shaped columns lines limit :=
  shaped.modifyRow _ fun row => row.size_fill start stop _

theorem eraseBelow (shaped : grid.Shaped columns lines limit) :
    grid.eraseBelow.Shaped columns lines limit :=
  (shaped.eraseColumns _ _).resetLines _

theorem eraseAbove (shaped : grid.Shaped columns lines limit) :
    grid.eraseAbove.Shaped columns lines limit := by
  unfold Grid.eraseAbove
  split
  · exact (shaped.resetLines _).eraseColumns _ _
  · exact shaped.eraseColumns _ _

theorem eraseRight (shaped : grid.Shaped columns lines limit) :
    grid.eraseRight.Shaped columns lines limit := by
  unfold Grid.eraseRight
  split
  · exact shaped
  · exact shaped.eraseColumns _ _

theorem deleteCount (shaped : grid.Shaped columns lines limit) (count : Nat) :
    (grid.deleteCount count).Shaped columns lines limit :=
  shaped.modifyRow _ fun row => row.size_rebuild _

theorem insertCount (shaped : grid.Shaped columns lines limit) (count : Nat) :
    (grid.insertCount count).Shaped columns lines limit :=
  shaped.modifyRow _ fun row => row.size_rebuild _

theorem alignmentTest (shaped : grid.Shaped columns lines limit) :
    grid.alignmentTest.Shaped columns lines limit :=
  { shaped with
    screen := shaped.screen.map fun row spans => (row.size_rebuild _).trans spans
    full := Array.size_map.trans shaped.full }

theorem clearHalf (shaped : grid.Shaped columns lines limit) :
    (State.clearHalf grid).Shaped columns lines limit := by
  unfold State.clearHalf
  extract_lets cursor old halved
  split
  · exact shaped
  · have half : halved.Shaped columns lines limit := by
      unfold halved
      split
      · exact shaped.modifyCursorGlyph _ _
      · split
        · exact shaped.modifyCursorGlyph _ _
        · exact shaped
    split
    · exact half.modifyGlyph _ _ _
    · exact half

theorem rectangular (shaped : grid.Shaped columns lines limit) : grid.Rectangular where
  lines := shaped.full.trans shaped.high.symm
  screen row member := (shaped.screen row member).trans shaped.wide.symm
  history row member := (shaped.history row member).trans shaped.wide.symm

end Shaped

theorem rectangular_blank (columns lines limit : Nat) :
    (blank columns lines limit).Rectangular :=
  (blank_shaped columns lines limit).rectangular

end Grid

end TtyFrame.Screen

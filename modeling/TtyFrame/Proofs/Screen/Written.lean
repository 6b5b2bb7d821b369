import TtyFrame.Proofs.Screen.Rows
import TtyFrame.Screen.Erasing
import TtyFrame.Screen.Writing

/-! Where the characters of a screen come from. A glyph holds a blank, a tab, the letter of
the alignment test or a character that was printed, and a place that is not of its own, as
the right half of a wide glyph, holds a blank or a tab. Scrolling, erasing and moving rows
about bring nothing else onto a grid. -/

set_option autoImplicit false

namespace TtyFrame.Screen

variable {printed : List Char}

/-- A glyph as it comes to stand on the screen after some characters were printed. -/
structure Glyph.Written (printed : List Char) (glyph : Glyph) : Prop where
  character : glyph.character ∈ ' ' :: '\t' :: 'E' :: printed
  filler : glyph.layout.spacer = true ∨ glyph.layout.leading = true →
    glyph.character ∈ [' ', '\t']

namespace Glyph.Written

variable {glyph : Glyph}

theorem of_blank (blank : glyph.character = ' ') : glyph.Written printed :=
  ⟨by simp [blank], by simp [blank]⟩

/-- A glyph in a place of its own. -/
theorem of_own (character : glyph.character ∈ ' ' :: '\t' :: 'E' :: printed)
    (spacer : glyph.layout.spacer = false) (leading : glyph.layout.leading = false) :
    glyph.Written printed :=
  ⟨character, by simp [spacer, leading]⟩

theorem setWraps (written : glyph.Written printed) (wraps : Bool) :
    (glyph.setWraps wraps).Written printed :=
  ⟨written.character, written.filler⟩

theorem clearSpacer (written : glyph.Written printed) : glyph.clearSpacer.Written printed :=
  ⟨written.character, fun filler => written.filler (.inr (filler.resolve_left nofun))⟩

theorem clearLeading (written : glyph.Written printed) : glyph.clearLeading.Written printed :=
  ⟨written.character, fun filler => written.filler (.inl (filler.resolve_right nofun))⟩

theorem mark (written : glyph.Written printed) :
    Written printed { glyph with marked := true } :=
  ⟨written.character, written.filler⟩

theorem mono {later : List Char} (written : glyph.Written printed) (more : printed ⊆ later) :
    glyph.Written later where
  character := by
    have held := written.character
    simp only [List.mem_cons] at held ⊢
    exact held.imp_right (.imp_right (.imp_right (@more _)))
  filler := written.filler

end Glyph.Written

def Row.Written (printed : List Char) (row : Row) : Prop :=
  Throughout (Glyph.Written printed) row.cells

namespace Row.Written

variable {row : Row}

theorem blank (columns : Nat) : (Row.blank columns).Written printed :=
  .replicate columns (.of_blank rfl)

theorem get (written : row.Written printed) (column : Nat) : (row.get column).Written printed :=
  written.getD (.of_blank rfl) column

theorem modify (written : row.Written printed) (column : Nat) {change : Glyph → Glyph}
    (keeps : ∀ glyph, glyph.Written printed → (change glyph).Written printed) :
    (row.modify column change).Written printed :=
  Throughout.modify written column keeps

theorem modifyLast (written : row.Written printed) {change : Glyph → Glyph}
    (keeps : ∀ glyph, glyph.Written printed → (change glyph).Written printed) :
    (row.modifyLast change).Written printed :=
  Throughout.modify written _ keeps

theorem fill (written : row.Written printed) (start stop : Nat) {glyph : Glyph}
    (filled : glyph.Written printed) : (row.fill start stop glyph).Written printed :=
  Throughout.mapIdx written fun column old kept => by
    split
    · exact filled
    · exact kept

theorem rebuild (written : row.Written printed) {glyphAt : Nat → Glyph}
    (rebuilt : ∀ column, (glyphAt column).Written printed) : (row.rebuild glyphAt).Written printed :=
  Throughout.mapIdx written fun column _ _ => rebuilt column

theorem reset (written : row.Written printed) (background : CellColor) :
    (row.reset background).Written printed := by
  unfold Row.reset
  extract_lets dirty
  refine Throughout.mapIdx written fun column old kept => ?_
  split
  · exact .of_blank rfl
  · exact kept

theorem mono {later : List Char} (written : row.Written printed) (more : printed ⊆ later) :
    row.Written later :=
  fun glyph member => (written glyph member).mono more

end Row.Written

theorem Row.blanks_written (columns : Nat) : Row.Blanks columns (Row.Written printed) :=
  ⟨.blank columns, fun _ background written => written.reset background⟩

/-- The rows of a grid hold nothing but what was written. -/
def Grid.Written (printed : List Char) (grid : Grid) : Prop := grid.Rows (Row.Written printed)

namespace Grid.Written

variable {grid : Grid}

theorem blank (columns lines limit : Nat) : (Grid.blank columns lines limit).Written printed :=
  Rows.blank (Row.blanks_written columns) lines limit

theorem mono {later : List Char} (written : grid.Written printed) (more : printed ⊆ later) :
    grid.Written later :=
  Rows.mono written fun _ row => row.mono more

theorem modifyRow (written : grid.Written printed) (line : Nat) {change : Row → Row}
    (keeps : ∀ row, row.Written printed → (change row).Written printed) :
    (grid.modifyRow line change).Written printed :=
  Rows.modifyRow written line keeps

theorem modifyCursorGlyph (written : grid.Written printed) (column : Nat) {change : Glyph → Glyph}
    (keeps : ∀ glyph, glyph.Written printed → (change glyph).Written printed) :
    (grid.modifyCursorRow (·.modify column change)).Written printed :=
  written.modifyRow _ fun _ row => row.modify column keeps

theorem modifyGlyph (written : grid.Written printed) (line : Int) (column : Nat)
    {change : Glyph → Glyph}
    (keeps : ∀ glyph, glyph.Written printed → (change glyph).Written printed) :
    (grid.modifyGlyph line column change).Written printed :=
  Rows.modifyGlyph written line column fun _ row => row.modify column keeps

theorem resetLines (written : grid.Written printed) (region : Region) :
    (grid.resetLines region).Written printed :=
  Rows.resetLines written (Row.blanks_written _) region

theorem scrollUp (written : grid.Written printed) (region : Region) (count : Nat) :
    (grid.scrollUp region count).Written printed :=
  Rows.scrollUp written (Row.blanks_written _) region count

theorem scrollDown (written : grid.Written printed) (region : Region) (count : Nat) :
    (grid.scrollDown region count).Written printed :=
  Rows.scrollDown written (Row.blanks_written _) region count

theorem clearViewport (written : grid.Written printed) : grid.clearViewport.Written printed :=
  Rows.clearViewport written (Row.blanks_written _)

theorem clearHistory (written : grid.Written printed) : grid.clearHistory.Written printed :=
  Rows.clearHistory written

theorem reset (written : grid.Written printed) : grid.reset.Written printed :=
  Rows.reset written (Row.blanks_written _)

theorem eraseColumns (written : grid.Written printed) (start stop : Nat) :
    (grid.eraseColumns start stop).Written printed :=
  written.modifyRow _ fun _ row => row.fill start stop (.of_blank rfl)

theorem eraseRight (written : grid.Written printed) : grid.eraseRight.Written printed := by
  unfold Grid.eraseRight
  split
  · exact written
  · exact written.eraseColumns _ _

theorem eraseBelow (written : grid.Written printed) : grid.eraseBelow.Written printed :=
  (written.eraseColumns _ _).resetLines _

theorem eraseAbove (written : grid.Written printed) : grid.eraseAbove.Written printed := by
  unfold Grid.eraseAbove
  split
  · exact (written.resetLines _).eraseColumns _ _
  · exact written.eraseColumns _ _

theorem deleteCount (written : grid.Written printed) (count : Nat) :
    (grid.deleteCount count).Written printed :=
  written.modifyRow _ fun _ row => row.rebuild fun column => by
    split
    · exact .of_blank rfl
    · split
      · exact row.get _
      · exact row.get _

theorem insertCount (written : grid.Written printed) (count : Nat) :
    (grid.insertCount count).Written printed :=
  written.modifyRow _ fun _ row => row.rebuild fun column => by
    split
    · exact row.get _
    · split
      · exact .of_blank rfl
      · exact row.get _

theorem alignmentTest (written : grid.Written printed) : grid.alignmentTest.Written printed :=
  { written with
    screen := written.screen.map fun row kept =>
      Row.Written.rebuild kept fun _ => .of_own (by simp) rfl rfl }

theorem clearHalf (written : grid.Written printed) : (State.clearHalf grid).Written printed := by
  unfold State.clearHalf
  extract_lets cursor old halved
  split
  · exact written
  · have half : halved.Written printed := by
      unfold halved
      split
      · exact written.modifyCursorGlyph _ fun _ glyph => glyph.clearSpacer
      · split
        · exact written.modifyCursorGlyph _ fun _ _ => .of_blank rfl
        · exact written
    split
    · exact half.modifyGlyph _ _ fun _ glyph => glyph.clearLeading
    · exact half

end Grid.Written

end TtyFrame.Screen

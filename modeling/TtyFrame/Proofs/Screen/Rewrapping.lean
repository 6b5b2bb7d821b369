import TtyFrame.Proofs.Screen.Written

/-! A resize writes nothing new. It moves rows between the screen and the history, joins,
cuts and fills them with blanks, and turns a place that a wide glyph has left into one that
holds no printed character. -/

set_option autoImplicit false

namespace TtyFrame.Screen

variable {printed : List Char}

namespace Row.Written

variable {row : Row} {glyphs : Array Glyph}

theorem grow (written : row.Written printed) (columns : Nat) :
    (row.grow columns).Written printed := by
  unfold Row.grow
  split
  · exact written
  · exact Throughout.append written (.replicate _ (.of_blank rfl))

theorem trimEmpty (written : Throughout (Glyph.Written printed) glyphs) :
    Throughout (Glyph.Written printed) (Row.trimEmpty glyphs) := by
  intro glyph member
  have kept : glyph ∈ glyphs.toList.reverse.dropWhile Glyph.isEmpty := by
    simpa [Row.trimEmpty] using member
  have before := (List.dropWhile_sublist _).subset kept
  exact written glyph (by simpa using before)

theorem shrink (written : row.Written printed) (columns : Nat) :
    (row.shrink columns).1.Written printed ∧
      Throughout (Glyph.Written printed) (row.shrink columns).2 := by
  unfold Row.shrink
  split
  · exact ⟨written, by simp [Throughout]⟩
  · exact ⟨Throughout.extract written _ _, trimEmpty (Throughout.extract written _ _)⟩

theorem splitFront (written : row.Written printed) (count : Nat) :
    Throughout (Glyph.Written printed) (row.splitFront count).1 ∧
      (row.splitFront count).2.Written printed :=
  ⟨Throughout.extract written _ _, Throughout.extract written _ _⟩

theorem append (written : row.Written printed) (more : Throughout (Glyph.Written printed) glyphs) :
    (row.append glyphs).Written printed :=
  Throughout.append written more

theorem prepend (written : row.Written printed) (more : Throughout (Glyph.Written printed) glyphs) :
    (row.prepend glyphs).Written printed :=
  Throughout.append more written

theorem setWraps (written : row.Written printed) (wraps : Bool) :
    (row.modifyLast (·.setWraps wraps)).Written printed :=
  written.modifyLast fun _ glyph => glyph.setWraps wraps

end Row.Written

namespace Grid

private theorem joins_written (columns : Nat) : Joins columns (Row.Written printed) where
  pair last row ends follows := by
    unfold joinPair
    extract_lets unmarked trimmed count splits parts
    have unmarks : unmarked.Written printed := ends.setWraps false
    have trims : trimmed.Written printed := by
      unfold trimmed
      split
      · exact (unmarks.shrink _).1
      · exact unmarks
    obtain ⟨fronts, rests⟩ : Throughout (Glyph.Written printed) parts.1 ∧ parts.2.Written printed :=
      follows.splitFront _
    refine ⟨trims.append ?_, rests⟩
    split
    · exact fronts.push (.of_blank rfl)
    · exact fronts
  mark _ written := written.setWraps true

/-- Rows that were wrapped so far, with what is carried to the next one. -/
structure Wrapping.Written (printed : List Char) (wrapping : Wrapping) : Prop where
  rows : Throughout (Row.Written printed) wrapping.rows
  carried : Throughout (Glyph.Written printed) wrapping.carried

private theorem wrapRow_written {columns lines fromBottom fuel : Nat} {wrapping : Wrapping}
    {row : Row}
    (written : wrapping.Written printed) (follows : row.Written printed) :
    (wrapRow columns lines fromBottom fuel wrapping row).Written printed := by
  -- Each round cuts one row off what the round before has left over.
  induction fuel generalizing wrapping row with
  | zero => exact { written with rows := written.rows.push follows }
  | succ fuel ih =>
    unfold wrapRow
    extract_lets isCursorRow
    split
    next kept cut shrunk =>
    have parts := follows.shrink columns
    rw [shrunk] at parts
    obtain ⟨keeps, cuts⟩ : kept.Written printed ∧ Throughout (Glyph.Written printed) cut := parts
    extract_lets splits longer shorter trailing left wrapped
    have longs : Throughout (Glyph.Written printed) longer := by
      have last : Throughout (Glyph.Written printed) #[kept.get (columns - 1)] := by
        simpa [Throughout] using keeps.get _
      unfold longer
      split
      · exact last.append cuts
      · exact cuts
    have shorts : shorter.Written printed := by
      unfold shorter
      split
      · exact keeps.modify _ fun _ _ => .of_blank rfl
      · exact keeps
    have lefts : Throughout (Glyph.Written printed) left := by
      unfold left
      split
      · exact (longs.modify _ fun _ glyph => glyph.setWraps true).pop
      · exact longs
    have lasts : Row.Written printed ⟨left, left.size⟩ := lefts
    have wraps : wrapped.Written printed :=
      { written with rows := written.rows.push (shorts.setWraps true) }
    split
    · exact { written with rows := written.rows.push keeps }
    · split
      · exact
          { written with
            rows := written.rows.push (shorts.modify _ fun _ glyph => glyph.setWraps true) }
      · split
        · exact { wraps with carried := lefts.modify _ fun _ glyph => glyph.setWraps false }
        · exact ih { wraps with } (lasts.grow columns)

private theorem wrapRows_written {columns lines : Nat} {rows : List Row} {wrapping : Wrapping}
    (written : wrapping.Written printed) (follow : ∀ row ∈ rows, row.Written printed) :
    (wrapRows columns lines wrapping rows).Written printed := by
  induction rows generalizing wrapping with
  | nil => exact written
  | cons row rest ih =>
    unfold wrapRows
    extract_lets onRow column whole next
    have follows : row.Written printed := follow row List.mem_cons_self
    have wholes : whole.Written printed := by
      unfold whole
      split
      · exact follows
      · exact follows.prepend written.carried
    have nexts : next.Written printed :=
      wrapRow_written { written with carried := by simp [Throughout] } wholes
    exact ih nexts fun later member => follow later (List.mem_cons_of_mem row member)

namespace Written

variable {grid : Grid}

theorem resizeLines (written : grid.Written printed) (lines : Nat) :
    (grid.resizeLines lines).Written printed :=
  Rows.resizeLines written (Row.blanks_written _) lines

theorem joinColumns (written : grid.Written printed) (columns : Nat) :
    (grid.joinColumns columns).Written printed := by
  have plain : grid.unwrapCursor.Written printed := Rows.unwrapCursor written
  unfold Grid.joinColumns
  extract_lets unwrapped joined missing line all below overflow rows
  have joins : Throughout (Row.Written printed) joined.rows :=
    throughout_joinRows (joins_written columns) (by simp [Throughout]) (Rows.allRows plain)
  have filled : Throughout (Row.Written printed) all := joins.append (.replicate _ (.blank _))
  have rowed : (unwrapped.withRows (rows.map (·.grow columns))).Written printed :=
    Rows.withRows ((filled.extract _ _).map fun row kept => Row.Written.grow kept columns)
  exact { rowed with }

theorem widen (written : grid.Written printed) (columns : Nat) :
    (grid.widen columns).Written printed where
  screen := written.screen.map fun _ row => Row.Written.grow row columns
  history := written.history.map fun _ row => Row.Written.grow row columns

theorem wrapColumns (written : grid.Written printed) (columns : Nat) :
    (grid.wrapColumns columns).Written printed := by
  have plain : grid.unwrapCursor.Written printed := Rows.unwrapCursor written
  unfold Grid.wrapColumns
  extract_lets unwrapped wrapped kept rows
  have wraps : wrapped.Written printed :=
    wrapRows_written ⟨by simp [Throughout], by simp [Throughout]⟩ (Rows.allRows plain)
  have rowed : (unwrapped.withRows rows).Written printed :=
    Rows.withRows (wraps.rows.extract _ _)
  exact { rowed with }

theorem narrow (written : grid.Written printed) (columns : Nat) :
    (grid.narrow columns).Written printed where
  screen := written.screen.map fun _ row => (Row.Written.shrink row columns).1
  history := written.history.map fun _ row => (Row.Written.shrink row columns).1

theorem resizeColumns (written : grid.Written printed) (reflow : Bool) (columns : Nat) :
    (grid.resizeColumns reflow columns).Written printed := by
  unfold Grid.resizeColumns
  split
  · split
    · exact written.joinColumns columns
    · exact written.widen columns
  · split
    · split
      · exact written.wrapColumns columns
      · exact written.narrow columns
    · exact written

theorem resize (written : grid.Written printed) (reflow : Bool) (columns lines : Nat) :
    (grid.resize reflow columns lines).Written printed := by
  have plain : Written printed { grid with cursor := { grid.cursor with pen := {} } } :=
    { written with }
  exact { (plain.resizeLines lines).resizeColumns reflow columns with }

end Written

end Grid

end TtyFrame.Screen

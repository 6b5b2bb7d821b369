import TtyFrame.Proofs.Screen.Runs

/-! The frame of a screen, read straight off its grid. A cell of the frame is a matter of
one glyph, its right neighbour and the colours in force; runs, windows and the order in
which they are written leave no trace in it. -/

set_option autoImplicit false

namespace TtyFrame.Screen

/-- The colour that a cell colour is painted with. Numbers, base colours and dim colours
have the value that the program gave them, or that of the palette; other names have the
value that the program gave them, or are the default colour. -/
def CellColor.painted (overrides : Overrides) (palette : Palette) (default : Rgb) :
    CellColor → Rgb
  | .direct color => color
  | .indexed index => (overrides.get? index.toNat).getD (palette.resolve index)
  | .named (.base index) =>
    (overrides.get? index.val).getD (palette.resolve (UInt8.ofNat index.val))
  | .named (.dim index) =>
    (overrides.get? index.val).getD (palette.resolve (UInt8.ofNat index.val))
  | .named name => (overrides.get? name.slot).getD default

namespace Glyph

/-- The colours of a glyph: inverse ones change places, and then a hidden foreground is
the background. -/
def painted (glyph : Glyph) (overrides : Overrides) (palette : Palette) (defaults : Paint) :
    Paint :=
  let foreground := glyph.pen.foreground.painted overrides palette defaults.foreground
  let background := glyph.pen.background.painted overrides palette defaults.background
  let front := if glyph.pen.attributes.inverse then background else foreground
  let back := if glyph.pen.attributes.inverse then foreground else background
  ⟨if glyph.pen.attributes.hidden then back else front, back⟩

/-- A neighbour holds the right half of a glyph if it is a continuation of the same
style. -/
def ContinuedBy (glyph next : Glyph) (overrides : Overrides) : Prop :=
  next.shown = continuation ∧ next.style overrides = glyph.style overrides

instance (glyph next : Glyph) (overrides : Overrides) :
    Decidable (glyph.ContinuedBy next overrides) :=
  inferInstanceAs (Decidable (_ ∧ _))

/-- The cell that shows a glyph in a column of a frame, given the glyph to its right. -/
def projected (glyph : Glyph) (next : Option Glyph) (overrides : Overrides)
    (palette : Palette) (defaults : Paint) (columns column : Nat) : Cell :=
  let look := glyph.pen.attributes
  { character := if look.hidden ∨ glyph.shown = '\x00' then ' ' else glyph.shown
    paint := glyph.painted overrides palette defaults
    attributes := ⟨look.bold, look.italic, look.underline, look.dim, look.hidden⟩
    doubleWidth := decide (glyph.shown ≠ continuation ∧
      Text.columnWidth? glyph.shown = some 2 ∧
      ((∃ right ∈ next, glyph.ContinuedBy right overrides) ∨ column + 1 = columns)) }

end Glyph

private theorem painted_eq_resolve (overrides : Overrides) (palette : Palette) (default : Rgb)
    (color : CellColor) :
    color.painted overrides palette default =
      ((overrides.resolve color).map (·.resolve palette)).getD default := by
  have indexed (index : UInt8) : (overrides.indexed index).resolve palette =
      (overrides.get? index.toNat).getD (palette.resolve index) := by
    unfold Overrides.indexed
    cases overrides.get? index.toNat <;> rfl
  have ofSmall {index : Nat} (small : index < 16) : (UInt8.ofNat index).toNat = index :=
    UInt8.toNat_ofNat_of_lt (Nat.lt_trans small (by decide))
  cases color with
  | direct color => rfl
  | indexed index => exact (indexed index).symm
  | named name =>
      cases name with
      | base index =>
          simp only [CellColor.painted, Overrides.resolve, Overrides.named, Option.map_some,
            Option.getD_some, indexed, ofSmall index.isLt]
      | dim index =>
          have small : index.val < 16 := Nat.lt_trans index.isLt (by decide)
          simp only [CellColor.painted, Overrides.resolve, Overrides.named, Option.map_some,
            Option.getD_some, indexed, ofSmall small]
      | foreground | background | cursor | brightForeground | dimForeground =>
          simp only [CellColor.painted, Overrides.resolve, Overrides.named]
          cases overrides.get? _ <;> rfl

private theorem style_resolve_eq_painted (glyph : Glyph) (overrides : Overrides) (palette : Palette)
    (defaults : Paint) :
    (glyph.style overrides).resolve defaults palette =
      glyph.painted overrides palette defaults := by
  simp only [TextStyle.resolve, Glyph.style, Glyph.painted, painted_eq_resolve]
  rcases glyph with ⟨_, ⟨foreground, background, look, _⟩, _, _⟩
  rcases look with ⟨bold, italic, underline, dim, hidden, inverse⟩
  cases inverse <;> cases hidden <;> rfl

section

variable {overrides : Overrides} (palette : Palette) (defaults : Paint) (columns : Nat)

/-- A run draws a glyph as its cell if the characters behind it tell whether the glyph is
continued. -/
theorem cell_eq_projected {run : Run} {glyph : Glyph}
    (same : glyph.style overrides = run.style) {rest : List Char} {next : Option Glyph}
    (continued : rest.head? = some continuation ↔
      ∃ right ∈ next, glyph.ContinuedBy right overrides) (column : Nat) :
    run.cell defaults palette columns column glyph.shown rest =
      glyph.projected next overrides palette defaults columns column := by
  have look : run.style.attributes = glyph.pen.attributes := by rw [← same]; rfl
  have width : isDoubleWidth columns column glyph.shown rest =
      decide (glyph.shown ≠ continuation ∧ Text.columnWidth? glyph.shown = some 2 ∧
        ((∃ right ∈ next, glyph.ContinuedBy right overrides) ∨ column + 1 = columns)) := by
    simp only [← continued, isDoubleWidth, Bool.decide_and, Bool.decide_or, Bool.and_assoc]
  have character : shownCharacter glyph.pen.attributes.hidden glyph.shown =
      if glyph.pen.attributes.hidden ∨ glyph.shown = '\x00' then ' ' else glyph.shown := by
    simp only [shownCharacter, Bool.or_eq_true, decide_eq_true_eq]
  rw [Run.cell, look, width, character, ← same, style_resolve_eq_painted]
  rfl

private theorem drawn?_stretch {row start column : Nat} {style : TextStyle}
    {stretch rest : List Glyph} (same : ∀ glyph ∈ stretch, glyph.style overrides = style)
    (other : ∀ glyph ∈ rest.head?, glyph.style overrides ≠ style) (behind : start ≤ column)
    (within : column < start + stretch.length) :
    (⟨row, start, style, stretch.map Glyph.shown⟩ : Run).drawn? defaults palette columns
        row column =
      (stretch ++ rest)[column - start]?.map fun glyph =>
        glyph.projected (stretch ++ rest)[column - start + 1]? overrides palette defaults
          columns column := by
  have inStretch : column - start < stretch.length := by omega
  have glyphStyle : stretch[column - start].style overrides = style :=
    same _ (List.getElem_mem inStretch)
  rw [Run.drawn?, if_pos ⟨rfl, behind⟩, List.getElem?_map,
    List.getElem?_append_left inStretch, List.getElem?_eq_getElem inStretch]
  refine congrArg some (cell_eq_projected palette defaults columns glyphStyle ?_ column)
  rw [List.head?_drop, List.getElem?_map]
  by_cases inside : column - start + 1 < stretch.length
  · have nextStyle : stretch[column - start + 1].style overrides = style :=
      same _ (List.getElem_mem inside)
    rw [List.getElem?_append_left inside, List.getElem?_eq_getElem inside]
    simp [Glyph.ContinuedBy, nextStyle, glyphStyle]
  · -- Behind the stretch the text ends, and the glyph there has another style: neither
    -- continues the last glyph.
    have ended : column - start + 1 = stretch.length := by omega
    rw [List.getElem?_eq_none (Nat.le_of_not_lt inside), ended,
      List.getElem?_append_right (Nat.le_refl _), Nat.sub_self, ← List.head?_eq_getElem?]
    constructor
    · intro impossible
      cases impossible
    · rintro ⟨right, first, _, sameStyle⟩
      exact absurd (sameStyle.trans glyphStyle) (other right first)

private theorem Grouped.other_style {row start : Nat} {rest : List Glyph} {runs : List Run}
    {style : TextStyle} (other : ∀ run ∈ runs.head?, run.style ≠ style)
    (grouped : Grouped overrides row start rest runs) :
    ∀ glyph ∈ rest.head?, glyph.style overrides ≠ style := by
  intro glyph first sameStyle
  obtain ⟨run, firstRun, runStyle⟩ := grouped.head_style first
  exact other run firstRun (runStyle.trans sameStyle)

theorem Grouped.findSome?_drawn {row start : Nat} {glyphs : List Glyph} {runs : List Run}
    (grouped : Grouped overrides row start glyphs runs) {column : Nat}
    (behind : start ≤ column) :
    (runs.reverse.findSome? fun run => run.drawn? defaults palette columns row column) =
      glyphs[column - start]?.map fun glyph =>
        glyph.projected glyphs[column - start + 1]? overrides palette defaults columns
          column := by
  induction grouped with
  | nil => rfl
  | @cons start style stretch rest runs taken same other later ih =>
      rw [List.reverse_cons, List.findSome?_append, List.findSome?_singleton]
      by_cases within : column < start + stretch.length
      · have notReached : (runs.reverse.findSome? fun run =>
            run.drawn? defaults palette columns row column) = none := by
          rw [List.findSome?_eq_none_iff]
          intro run member
          have starts := later.start_le run (List.mem_reverse.mp member)
          rw [Run.drawn?, if_neg fun both => by omega]
        rw [notReached, Option.none_or]
        exact drawn?_stretch palette defaults columns same (later.other_style other) behind
          within
      · have past : start + stretch.length ≤ column := Nat.le_of_not_lt within
        have passed : (⟨row, start, style, stretch.map Glyph.shown⟩ : Run).drawn? defaults
            palette columns row column = none := by
          have ended : (stretch.map Glyph.shown).length ≤ column - start := by
            rw [List.length_map]; omega
          rw [Run.drawn?, if_pos ⟨rfl, behind⟩, List.getElem?_eq_none ended]
          rfl
        have here : column - start - stretch.length = column - (start + stretch.length) := by
          omega
        have next : column - start + 1 - stretch.length =
            column - (start + stretch.length) + 1 := by omega
        rw [passed, Option.or_none, ih past, List.getElem?_append_right (by omega),
          List.getElem?_append_right (by omega), here, next]

end

end TtyFrame.Screen

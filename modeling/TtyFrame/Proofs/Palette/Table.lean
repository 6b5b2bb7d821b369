import TtyFrame.Config
import TtyFrame.Proofs.Palette
import TtyFrame.Proofs.Text.Trimming

/-! The table of all colours of a palette, filled one part after another: the base colours,
the cube, the grays, and the overrides on top. Each part begins where the one before it ends,
and the overrides stay within the first. So the table holds what the palette resolves, which
is the theme, the overrides of the first sixteen indices, and an extension that is always the
same. -/

set_option autoImplicit false

namespace TtyFrame

namespace Palette

abbrev Table := Vector Rgb 256

/-- The levels of a channel in the cube. -/
def cubeLevels : Vector UInt8 6 := #v[0, 95, 135, 175, 215, 255]

def cubeColor? (rank : Nat) : Option Rgb := do
  let red ← cubeLevels[rank / 36]?
  let green ← cubeLevels[rank / 6 % 6]?
  let blue ← cubeLevels[rank % 6]?
  return ⟨red, green, blue⟩

/-- The gray with the given rank, which is taken as a byte, if its level is one. -/
def grayColor? (rank : Nat) : Option Rgb :=
  let level := 8 + 10 * (UInt8.ofNat rank).toNat
  if level < 256 then some (.gray (UInt8.ofNat level)) else none

namespace Table

def put? (table : Table) (place : Nat) (color : Rgb) : Option Table :=
  if inside : place < 256 then some (table.set place color) else none

/-- Fills the places from `start` on with the colours of the first ranks, one after another.
There is no table if a rank has no colour or no place. -/
def fill? (table : Table) (start : Nat) (color? : Nat → Option Rgb) : Nat → Option Table
  | 0 => some table
  | count + 1 => do
    let filled ← table.fill? start color? count
    let color ← color? count
    filled.put? (start + count) color

def ofBase? (base : Vector Rgb 16) : Option Table := do
  let dark : Table := Vector.replicate 256 .black
  let based ← dark.fill? 0 (base[·]?) 16
  let cubed ← based.fill? 16 cubeColor? 216
  cubed.fill? 232 grayColor? 24

/-- Puts the colours that texts name at their places, from an index on. -/
def overrideFrom? (table : Table) : Nat → List String → Option Table
  | _, [] => some table
  | index, entry :: rest =>
    match Rgb.parse entry with
    | .ok color => (table.put? index color).bind (·.overrideFrom? (index + 1) rest)
    | .error _ => table.overrideFrom? (index + 1) rest

def withOverrides? (table : Table) (entries : List String) : Option Table :=
  table.overrideFrom? 0 (entries.take 16)

end Table

/-- The table that holds what the palette resolves. -/
def table (palette : Palette) : Table :=
  Vector.ofFn fun index => palette.resolve (UInt8.ofNat index.val)

section Ranges

variable (palette : Palette) {index : Nat}

theorem resolve_ofNat (inside : index < 256) :
    palette.resolve (UInt8.ofNat index) =
      if base : index < 16 then palette.base[index]
      else if index < 232 then cubeColor (index - 16)
      else grayColor (index - 232) := by
  have same : (UInt8.ofNat index).toNat = index := UInt8.toNat_ofNat_of_lt' inside
  simp only [resolve, same]

theorem getElem_table (inside : index < 256) :
    palette.table[index] = palette.resolve (UInt8.ofNat index) := by
  rw [table, Vector.getElem_ofFn]

private theorem cubeLevels_eq (coordinate : Nat) (inside : coordinate < 6) :
    cubeLevels[coordinate]? = some (cubeLevel coordinate) := by
  revert coordinate
  decide

private theorem cubeColor?_eq (rank : Nat) (inside : rank < 216) :
    cubeColor? rank = some (cubeColor rank) := by
  have red := cubeLevels_eq (rank / 36) (by omega)
  have green := cubeLevels_eq (rank / 6 % 6) (Nat.mod_lt _ (by decide))
  have blue := cubeLevels_eq (rank % 6) (Nat.mod_lt _ (by decide))
  simp only [cubeColor?, red, green, blue]
  rfl

private theorem grayColor?_eq (rank : Nat) (inside : rank < 24) :
    grayColor? rank = some (grayColor rank) := by
  revert rank
  decide

end Ranges

namespace Table

/-- What is filled has the colours of the ranks in its places and nothing new elsewhere. -/
theorem fill?_eq (table : Table) (start : Nat) {count : Nat} {color? : Nat → Option Rgb}
    {color : Nat → Rgb} (colored : ∀ rank < count, color? rank = some (color rank))
    (room : start + count ≤ 256) :
    ∃ filled, table.fill? start color? count = some filled ∧
      ∀ index (inside : index < 256), filled[index] =
        if start ≤ index ∧ index < start + count then color (index - start) else table[index] := by
  induction count with
  | zero => exact ⟨table, rfl, fun index inside => by rw [if_neg (by omega)]⟩
  | succ count ih =>
      obtain ⟨filled, before, holds⟩ :=
        ih (fun rank earlier => colored rank (by omega)) (by omega)
      have place : start + count < 256 := by omega
      refine ⟨filled.set (start + count) (color count), ?_, fun index inside => ?_⟩
      · simp [fill?, before, colored count (Nat.lt_succ_self count), put?, place]
      · -- Only the last of the places is new to those that were filled before.
        rw [Vector.getElem_set, holds index inside]
        by_cases last : start + count = index
        · subst last
          rw [if_pos rfl, if_pos (by omega), Nat.add_sub_cancel_left]
        · rw [if_neg last]
          by_cases earlier : start ≤ index ∧ index < start + count
          · rw [if_pos earlier, if_pos (by omega)]
          · rw [if_neg earlier, if_neg (by omega)]

theorem ofBase?_eq (base : Vector Rgb 16) : ofBase? base = some (Palette.table ⟨base⟩) := by
  have colored : ∀ index < 16, base[index]? = some (base[index]?.getD .black) := by
    intro index inside
    simp [inside]
  obtain ⟨based, first, bases⟩ := fill?_eq (.replicate 256 .black) 0 colored (by decide)
  obtain ⟨cubed, second, cubes⟩ := fill?_eq based 16 cubeColor?_eq (by decide)
  obtain ⟨full, third, grays⟩ := fill?_eq cubed 232 grayColor?_eq (by decide)
  have filled : ofBase? base = some full := by
    simp only [ofBase?, first, second, third, Option.bind_eq_bind, Option.bind_some]
  rw [filled, Option.some.injEq]
  refine Vector.ext fun index inside => ?_
  rw [grays index inside, cubes index inside, bases index inside,
    getElem_table ⟨base⟩ inside, resolve_ofNat ⟨base⟩ inside]
  by_cases inBase : index < 16
  · rw [dif_pos inBase, if_neg (by omega), if_neg (by omega), if_pos (by omega)]
    simp [inBase]
  · rw [dif_neg inBase]
    by_cases inCube : index < 232
    · rw [if_pos inCube, if_neg (by omega), if_pos (by omega)]
    · rw [if_neg inCube, if_pos (by omega)]

/-- A colour that is put at a base index is one of the palette's base colours. -/
theorem put?_table (palette : Palette) {index : Nat} (inBase : index < 16) (color : Rgb) :
    palette.table.put? index color =
      some (Palette.table ⟨palette.base.setIfInBounds index color⟩) := by
  have inside : index < 256 := by omega
  rw [put?, dif_pos inside, Option.some.injEq]
  refine Vector.ext fun place within => ?_
  rw [Vector.getElem_set, getElem_table _ within, getElem_table _ within, resolve_ofNat _ within,
    resolve_ofNat _ within]
  by_cases based : place < 16
  · simp [based, Vector.getElem_setIfInBounds]
  · have other : index ≠ place := by omega
    simp [based, other]

private theorem overrideFrom?_table (palette : Palette) (start : Nat) (entries : List String)
    (room : start + entries.length ≤ 16) :
    palette.table.overrideFrom? start entries =
      some (palette.overrideFrom start entries).table := by
  induction entries generalizing palette start with
  | nil => rfl
  | cons entry rest ih =>
      rw [List.length_cons] at room
      have behind : start + 1 + rest.length ≤ 16 := by omega
      have inBase : start < 16 := by omega
      simp only [overrideFrom?, overrideFrom, override]
      cases Rgb.parse entry with
      | error cause => exact ih palette (start + 1) behind
      | ok color =>
          simp only [put?_table palette inBase color, Option.bind_some]
          exact ih _ (start + 1) behind

private theorem withOverrides?_table (palette : Palette) (entries : List String) :
    palette.table.withOverrides? entries = some (palette.withOverrides entries).table := by
  refine overrideFrom?_table palette 0 _ ?_
  rw [Nat.zero_add, List.length_take]
  exact Nat.min_le_left ..

end Table

/-- The colours of a palette with overrides: as the table is filled, and index by index. -/
structure LaidOut (base : Palette) (entries : List String) (colors : Palette) : Prop where
  filled : ∃ table : Table,
    (Table.ofBase? base.base).bind (·.withOverrides? entries) = some table ∧
      ∀ index : UInt8, table[index.toNat]? = some (colors.resolve index)
  named : ∀ (index : UInt8) (inBase : index.toNat < 16),
    colors.resolve index = (entries[index.toNat]?.bind Rgb.named?).getD base.base[index.toNat]
  cube : ∀ red green blue : Fin 6,
    colors.resolve (UInt8.ofNat (16 + 36 * red + 6 * green + blue)) =
      ⟨cubeLevels[red], cubeLevels[green], cubeLevels[blue]⟩
  gray : ∀ rank : Fin 24,
    colors.resolve (UInt8.ofNat (232 + rank)) = .gray (UInt8.ofNat (8 + 10 * rank))

section Laying

variable (palette : Palette)

private theorem getElem?_table (index : UInt8) :
    palette.table[index.toNat]? = some (palette.resolve index) := by
  rw [Vector.getElem?_eq_getElem index.toNat_lt, getElem_table palette index.toNat_lt,
    UInt8.ofNat_toNat]

theorem resolve_cube (red green blue : Fin 6) :
    palette.resolve (UInt8.ofNat (16 + 36 * red + 6 * green + blue)) =
      ⟨cubeLevels[red], cubeLevels[green], cubeLevels[blue]⟩ := by
  have level (coordinate : Fin 6) : cubeLevel coordinate = cubeLevels[coordinate] := by
    revert coordinate
    decide
  have behind : 16 + 36 * red.val + 6 * green.val + blue.val - 16 =
      36 * red.val + 6 * green.val + blue.val := by omega
  rw [resolve_ofNat palette (by omega), dif_neg (by omega), if_pos (by omega), behind, cubeColor,
    ← level red, ← level green, ← level blue]
  congr 2
  · omega
  · omega
  · omega

theorem resolve_gray (rank : Fin 24) :
    palette.resolve (UInt8.ofNat (232 + rank)) = .gray (UInt8.ofNat (8 + 10 * rank)) := by
  rw [resolve_ofNat palette (by omega), dif_neg (by omega), if_neg (by omega),
    Nat.add_sub_cancel_left, grayColor]

/-- Behind the base colours all palettes are the same. -/
theorem resolve_extension (other : Palette) {index : UInt8} (extended : 16 ≤ index.toNat) :
    palette.resolve index = other.resolve index := by
  rw [resolve, resolve, dif_neg (Nat.not_lt_of_le extended), dif_neg (Nat.not_lt_of_le extended)]

theorem withOverrides_laidOut (entries : List String) :
    LaidOut palette entries (palette.withOverrides entries) where
  filled := by
    refine ⟨(palette.withOverrides entries).table, ?_, getElem?_table _⟩
    rw [Table.ofBase?_eq, Option.bind_some]
    exact Table.withOverrides?_table palette entries
  named index inBase := by
    rw [resolve_withOverrides palette entries inBase, resolve_base palette inBase]
  cube := resolve_cube _
  gray := resolve_gray _

private theorem withOverrides_append {entries : List String} (enough : 16 ≤ entries.length)
    (more : List String) :
    palette.withOverrides (entries ++ more) = palette.withOverrides entries := by
  rw [withOverrides, withOverrides, List.take_append_of_le_length enough]

end Laying

end Palette

namespace Theme

/-- Without the blanks around it and in lower case, a name is that of the theme. -/
def Named (name : String) (theme : Theme) : Prop :=
  ∃ inner, Text.Trimmed name.toList inner ∧ inner.map Char.toLower = theme.name.toList

private theorem named_iff_nameKey (name : String) (theme : Theme) :
    Named name theme ↔ nameKey name = theme.name.toList := by
  constructor
  · rintro ⟨inner, trimmed, spelled⟩
    rw [nameKey, ← trimmed.eq_trim, spelled]
  · exact fun spelled => ⟨_, Text.trim_trimmed _, spelled⟩

/-- The theme that is looked up is the one that the name stands for, and xterm if there is
none. -/
theorem ofName_cases (name : String) :
    Named name (ofName name) ∨ ofName name = .xterm ∧ ∀ theme, ¬ Named name theme := by
  simp only [named_iff_nameKey, ofName, ofName?]
  by_cases first : nameKey name = "xterm".toList
  · rw [if_pos first]
    exact .inl first
  · rw [if_neg first]
    by_cases second : nameKey name = "windows".toList
    · rw [if_pos second]
      exact .inl second
    · rw [if_neg second]
      refine .inr ⟨rfl, fun theme => ?_⟩
      cases theme with
      | xterm => exact first
      | windows => exact second

end Theme

/-- The colours of all palettes with overrides and of all settings. A base index has the
colour that the entry at that index names, and else the one of the theme that the setting
names, or of xterm. The cube and the grays have the same colours in every palette, and
entries behind the sixteenth change nothing. -/
theorem Config.colors_laid_out :
    (∀ (base : Palette) (entries : List String),
      base.LaidOut entries (base.withOverrides entries) ∧
        ∀ more, 16 ≤ entries.length →
          base.withOverrides (entries ++ more) = base.withOverrides entries) ∧
      (∀ config : Config, ∃ theme : Theme,
        (Theme.Named config.theme theme ∨
          theme = .xterm ∧ ∀ other, ¬ Theme.Named config.theme other) ∧
        theme.palette.LaidOut config.palette config.colors) ∧
      ∀ (config other : Config) (index : UInt8), 16 ≤ index.toNat →
        config.colors.resolve index = other.colors.resolve index := by
  refine ⟨fun base entries => ⟨base.withOverrides_laidOut entries, fun more enough =>
    base.withOverrides_append enough more⟩, fun config => ?_, fun config other index => ?_⟩
  · exact ⟨Theme.ofName config.theme, Theme.ofName_cases config.theme,
      Palette.withOverrides_laidOut _ _⟩
  · exact config.colors.resolve_extension other.colors

end TtyFrame

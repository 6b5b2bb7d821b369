import TtyFrame.Config.Load
import TtyFrame.Proofs.Palette

/-! Which entry of the palette setting reaches which base colour once a file is loaded.
Entries that are too long are taken out of the list, and those behind them move up: an
index is safe exactly as far as there was nothing to take out, or by coincidence. -/

set_option autoImplicit false

namespace TtyFrame.Config

/-- The settings that a file within the size limit spells, texts that are too long
included. -/
def ofFile? (content : ByteArray) : Option Config :=
  (String.fromUTF8? content).bind fun text =>
    if maxFileSize < text.utf8ByteSize then none else parse? text

theorem load_file {content : ByteArray} {config : Config}
    (spelled : ofFile? content = some config) :
    (load (.file content)).1 = config.sanitize := by
  obtain ⟨text, decoded, accepted⟩ := Option.bind_eq_some_iff.mp spelled
  by_cases tooLarge : maxFileSize < text.utf8ByteSize
  · rw [if_pos tooLarge] at accepted
    cases accepted
  · rw [if_neg tooLarge] at accepted
    simp only [load, decoded, if_neg tooLarge, accepted]

def themeColor (config : Config) (index : UInt8) : Rgb :=
  (Theme.ofName config.sanitize.theme).palette.resolve index

/-- The colour that entries ask for at an index: the one that the entry at that very
index names, if it is short enough, and else the base colour. -/
def askedColor (base : Rgb) (entries : List String) (index : Nat) : Rgb :=
  ((entries[index]?.filter fits).bind Rgb.named?).getD base

/-- The colour of the entry that comes to an index once the long entries are gone, or
the base colour. -/
def shiftedColor (base : Rgb) (entries : List String) (index : Nat) : Rgb :=
  ((entries.filter fits)[index]?.bind Rgb.named?).getD base

/-- No entry up to an index is too long. -/
def ShortUpTo (entries : List String) (index : Nat) : Prop :=
  ∀ entry ∈ entries.take (index + 1), fits entry = true

private theorem sanitize_colors_resolve (config : Config) {index : UInt8}
    (inBase : index.toNat < 16) :
    config.sanitize.colors.resolve index =
      shiftedColor (config.themeColor index) config.palette index.toNat :=
  Palette.resolve_withOverrides _ _ inBase

private theorem filter_fits_split (entries : List String) (index : Nat) :
    entries.filter fits =
      (entries.take index).filter fits ++ (entries.drop index).filter fits := by
  rw [← List.filter_append, List.take_append_drop]

private theorem ShortUpTo.lt_length {entries : List String} {index : Nat}
    (short : ShortUpTo entries index) (inside : index < entries.length) :
    index < (entries.filter fits).length := by
  rw [filter_fits_split entries (index + 1), List.filter_eq_self.mpr short, List.length_append,
    List.length_take]
  omega

private theorem ShortUpTo.getElem?_filter {entries : List String} {index : Nat}
    (short : ShortUpTo entries index) :
    (entries.filter fits)[index]? = entries[index]?.filter fits := by
  by_cases inside : index < entries.length
  · have reached : index < (entries.take (index + 1)).length := by
      rw [List.length_take]
      omega
    have found : entries[index] ∈ entries.take (index + 1) := by
      refine List.mem_take_iff_getElem.mpr ⟨index, ?_, rfl⟩
      omega
    rw [filter_fits_split entries (index + 1), List.filter_eq_self.mpr short,
      List.getElem?_append_left reached, List.getElem?_take_of_lt (Nat.lt_succ_self index),
      List.getElem?_eq_getElem inside, Option.filter_some, if_pos (short _ found)]
  · have outside : entries.length ≤ index := Nat.le_of_not_lt inside
    have shorter : (entries.filter fits).length ≤ index :=
      Nat.le_trans (List.length_filter_le fits entries) outside
    rw [List.getElem?_eq_none shorter, List.getElem?_eq_none outside, Option.filter_none]

private theorem ShortUpTo.shiftedColor_eq {entries : List String} {index : Nat}
    (short : ShortUpTo entries index) (base : Rgb) :
    shiftedColor base entries index = askedColor base entries index := by
  rw [shiftedColor, askedColor, short.getElem?_filter]

/-- A short entry behind one that is too long moves up, but not to an index before the
first one that is too long. -/
theorem moved_up {entries : List String} {index : Nat} {entry : String}
    (found : entries[index]? = some entry) (fitting : fits entry = true)
    (long : ¬ ShortUpTo entries index) :
    ∃ earlier, earlier < index ∧ (entries.filter fits)[earlier]? = some entry ∧
      ¬ ShortUpTo entries earlier := by
  obtain ⟨inside, same⟩ := List.getElem?_eq_some_iff.mp found
  -- An entry before this one is too long, so fewer than `index` entries are left before it.
  have dropped : ¬ ∀ item ∈ entries.take index, fits item = true := by
    intro all
    apply long
    intro item member
    rw [List.take_succ_eq_append_getElem inside, same, List.mem_append,
      List.mem_singleton] at member
    rcases member with before | rfl
    · exact all item before
    · exact fitting
  have fewer : ((entries.take index).filter fits).length < (entries.take index).length :=
    Nat.lt_of_le_of_ne (List.length_filter_le fits _) fun equal =>
      dropped (List.length_filter_eq_length_iff.mp equal)
  have earlier : ((entries.take index).filter fits).length < index :=
    Nat.lt_of_lt_of_le fewer (List.length_take_le index entries)
  refine ⟨((entries.take index).filter fits).length, earlier, ?_, ?_⟩
  · rw [filter_fits_split entries index, List.getElem?_append_right (Nat.le_refl _),
      Nat.sub_self, List.drop_eq_getElem_cons inside, same, List.filter_cons_of_pos fitting,
      List.getElem?_cons_zero]
  · intro short
    have within : ShortUpTo (entries.take index) ((entries.take index).filter fits).length := by
      intro item member
      rw [List.take_take, Nat.min_eq_left earlier] at member
      exact short item member
    exact absurd (within.lt_length fewer) (Nat.lt_irrefl _)

private theorem eq_of_getD_eq {left right : Option Rgb}
    (same : ∀ base, left.getD base = right.getD base) : left = right := by
  cases left with
  | none =>
      cases right with
      | none => rfl
      | some color =>
          have black : Rgb.black = color := same .black
          have white : Rgb.gray 255 = color := same (.gray 255)
          exact absurd (black.trans white.symm) (by decide)
  | some left =>
      cases right with
      | none =>
          have black : left = Rgb.black := same .black
          have white : left = Rgb.gray 255 := same (.gray 255)
          exact absurd (black.symm.trans white) (by decide)
      | some right => exact congrArg some (same .black)

/-- No entry that names a colour has moved to an index. -/
def Unmoved (entries : List String) (index : Nat) : Prop :=
  ShortUpTo entries index ∨ (entries.filter fits)[index]?.bind Rgb.named? = none

private theorem own_names_nothing {entries : List String} {index : Nat}
    (long : ¬ ShortUpTo entries index)
    (unmoved : ∀ earlier, earlier < index → Unmoved entries earlier) :
    (entries[index]?.filter fits).bind Rgb.named? = none := by
  cases found : entries[index]? with
  | none => rfl
  | some entry =>
      by_cases fitting : fits entry = true
      · -- Behind a long entry this one has moved up, so an earlier index answers for it.
        obtain ⟨earlier, before, moved, longEarlier⟩ := moved_up found fitting long
        have nothing := (unmoved earlier before).resolve_left longEarlier
        rw [moved] at nothing
        rw [Option.filter_some, if_pos fitting, nothing]
      · rw [Option.filter_some, if_neg fitting, Option.bind_none]

/-- Whatever the base colours are, every index has the colour that is asked for exactly
if no entry that names a colour has moved. -/
theorem shiftedColor_eq_iff (entries : List String) :
    (∀ base index, index < 16 →
        shiftedColor base entries index = askedColor base entries index) ↔
      ∀ index, index < 16 → Unmoved entries index := by
  constructor
  · intro aligned index inBase
    -- A colour that moved here would have to be the one of the entry that is here, which
    -- moved to an earlier index in turn: the index can only go down for so long.
    induction index using Nat.strongRecOn with
    | ind index ih =>
        by_cases short : ShortUpTo entries index
        · exact .inl short
        · have own := eq_of_getD_eq fun base => aligned base index inBase
          rw [own_names_nothing short fun earlier before =>
            ih earlier before (Nat.lt_trans before inBase)] at own
          exact .inr own
  · intro unmoved base index inBase
    by_cases short : ShortUpTo entries index
    · exact short.shiftedColor_eq base
    · have moved := (unmoved index inBase).resolve_left short
      have own := own_names_nothing short fun earlier before =>
        unmoved earlier (Nat.lt_trans before inBase)
      rw [shiftedColor, askedColor, moved, own]

/-- The colours of a loaded file: each base index has that of the entry that comes to it
once the long entries are gone. Up to the first long entry it is the one asked for; all
sixteen are, whatever the base colours, exactly if no entry that names a colour moved. -/
theorem load_colors_aligned_iff {content : ByteArray} {config : Config}
    (spelled : ofFile? content = some config) :
    (∀ index : UInt8, index.toNat < 16 →
        (load (.file content)).1.colors.resolve index =
            shiftedColor (config.themeColor index) config.palette index.toNat ∧
          (ShortUpTo config.palette index.toNat →
            (load (.file content)).1.colors.resolve index =
              askedColor (config.themeColor index) config.palette index.toNat)) ∧
      ((∀ base index, index < 16 →
          shiftedColor base config.palette index = askedColor base config.palette index) ↔
        ∀ index, index < 16 → Unmoved config.palette index) := by
  refine ⟨?_, shiftedColor_eq_iff config.palette⟩
  intro index inBase
  have loaded := sanitize_colors_resolve config inBase
  rw [← load_file spelled] at loaded
  exact ⟨loaded, fun short => loaded.trans (short.shiftedColor_eq _)⟩

private theorem ofFile?_toUTF8 {text : String} (small : text.utf8ByteSize ≤ maxFileSize) :
    ofFile? text.toUTF8 = parse? text := by
  have decoded : String.fromUTF8? text.toUTF8 = some text := by
    rw [String.fromUTF8?]
    split
    · rfl
    · next invalid => exact absurd text.isValidUTF8 invalid
  rw [ofFile?, decoded, Option.bind_some, if_neg (Nat.not_lt_of_le small)]

def longEntry : List Char := List.replicate 65 '😀'

/-- A palette setting whose first entry is too long and whose second names a colour. -/
def shiftingChars : List Char :=
  "palette = [\"".toList ++ longEntry ++ "\", \"#010203\"]".toList

def shiftingFile : ByteArray := (String.ofList shiftingChars).toUTF8

private theorem ofFile?_shiftingFile :
    ofFile? shiftingFile = some { palette := [String.ofList longEntry, "#010203"] } := by
  have small : (String.ofList shiftingChars).utf8ByteSize ≤ maxFileSize := by decide +kernel
  rw [shiftingFile, ofFile?_toUTF8 small, parse?, Toml.parse?, String.toList_ofList]
  decide +kernel

theorem load_colors_aligned_shifting :
    ofFile? shiftingFile = some { palette := [String.ofList longEntry, "#010203"] } ∧
      (load (.file shiftingFile)).1.colors.resolve 0 = ⟨1, 2, 3⟩ := by
  have colors := (load_colors_aligned_iff ofFile?_shiftingFile).1 0 (by decide)
  refine ⟨ofFile?_shiftingFile, ?_⟩
  rw [colors.1]
  decide +kernel

/-- Not every base index has the colour that its own entry asks for. -/
theorem long_entry_moves_color :
    ¬ ∀ (content : ByteArray) (config : Config), ofFile? content = some config →
        ∀ index : UInt8, index.toNat < 16 →
          (load (.file content)).1.colors.resolve index =
            askedColor (config.themeColor index) config.palette index.toNat := by
  intro claimed
  have aligned := claimed _ _ ofFile?_shiftingFile 0 (by decide)
  rw [load_file ofFile?_shiftingFile, sanitize_colors_resolve _ (by decide)] at aligned
  revert aligned
  decide +kernel

end TtyFrame.Config

import TtyFrame.Palette

/-! The colours of a palette after overrides. Each override reaches the colour of its own
index, and the entries behind the sixteenth reach none. -/

set_option autoImplicit false

namespace TtyFrame

/-- The colour that a text names, if it names one. -/
def Rgb.named? (text : String) : Option Rgb := (Rgb.parse text).toOption

namespace Palette

theorem resolve_base (palette : Palette) {index : UInt8} (inBase : index.toNat < 16) :
    palette.resolve index = palette.base[index.toNat] := by
  rw [resolve, dif_pos inBase]

theorem getElem_override (palette : Palette) (start : Nat) (entry : String) {index : Nat}
    (inBase : index < 16) :
    (palette.override start entry).base[index] =
      if start = index then (Rgb.named? entry).getD palette.base[index]
      else palette.base[index] := by
  unfold override Rgb.named?
  cases Rgb.parse entry with
  | error cause => simp [Except.toOption]
  | ok color => simp [Except.toOption, Vector.getElem_setIfInBounds]

theorem getElem_overrideFrom (palette : Palette) (start : Nat) (entries : List String)
    {index : Nat} (inBase : index < 16) :
    (palette.overrideFrom start entries).base[index] =
      if start ≤ index then
        (entries[index - start]?.bind Rgb.named?).getD palette.base[index]
      else palette.base[index] := by
  induction entries generalizing palette start with
  | nil => simp [overrideFrom]
  | cons entry rest ih =>
      rw [overrideFrom, ih, getElem_override palette start entry inBase]
      rcases Nat.lt_trichotomy start index with earlier | same | later
      · have step : index - start = index - (start + 1) + 1 := by omega
        have following : start + 1 ≤ index := earlier
        rw [if_pos following, if_neg (Nat.ne_of_lt earlier), if_pos (Nat.le_of_lt earlier),
          step, List.getElem?_cons_succ]
      · subst same
        have past : ¬ start + 1 ≤ start := Nat.not_succ_le_self start
        rw [if_neg past, if_pos rfl, if_pos (Nat.le_refl start), Nat.sub_self,
          List.getElem?_cons_zero, Option.bind_some]
      · have before : ¬ start + 1 ≤ index := by omega
        rw [if_neg before, if_neg (Nat.ne_of_gt later), if_neg (Nat.not_le_of_gt later)]

/-- A base colour after overrides is the one that the entry at its index names, or the
one that was there. -/
theorem resolve_withOverrides (palette : Palette) (entries : List String) {index : UInt8}
    (inBase : index.toNat < 16) :
    (palette.withOverrides entries).resolve index =
      (entries[index.toNat]?.bind Rgb.named?).getD (palette.resolve index) := by
  rw [resolve_base _ inBase, resolve_base _ inBase, withOverrides,
    getElem_overrideFrom palette 0 _ inBase, if_pos (Nat.zero_le _), Nat.sub_zero,
    List.getElem?_take_of_lt inBase]

end Palette

end TtyFrame

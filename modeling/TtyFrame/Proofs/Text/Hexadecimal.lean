import TtyFrame.Text.Hex

/-! Hexadecimal digits by the alphabets they are taken from. A character is read exactly if
it stands in one of them, with its place there as its value, and two digits spell a byte. -/

set_option autoImplicit false

namespace TtyFrame.Text

/-- The digits in the order of their values. -/
def lowerDigits : List Char := "0123456789abcdef".toList

def upperDigits : List Char := "0123456789ABCDEF".toList

/-- The character is the digit of the value, in either case. -/
def IsDigitOf (c : Char) (value : Nat) : Prop :=
  lowerDigits[value]? = some c ∨ upperDigits[value]? = some c

/-- Two digits spell a byte, the higher one first. -/
def Spells (pair : List Char) (byte : UInt8) : Prop :=
  ∃ high low x y, pair = [high, low] ∧ IsDigitOf high x ∧ IsDigitOf low y ∧
    byte.toNat = 16 * x + y

section Digit

variable {c : Char} {value : Nat}

theorem IsDigitOf.lt (digit : IsDigitOf c value) : value < 16 := by
  rcases digit with lower | upper
  · exact (List.getElem?_eq_some_iff.mp lower).1
  · exact (List.getElem?_eq_some_iff.mp upper).1

private theorem hexValue?_lowerDigits :
    ∀ value : Fin lowerDigits.length, hexValue? (lowerDigits.get value) = some value.val ∧
      (lowerDigits.get value).toLower = Nat.digitChar value := by decide

private theorem hexValue?_upperDigits :
    ∀ value : Fin upperDigits.length, hexValue? (upperDigits.get value) = some value.val ∧
      (upperDigits.get value).toLower = Nat.digitChar value := by decide

theorem IsDigitOf.read (digit : IsDigitOf c value) :
    hexValue? c = some value ∧ c.toLower = Nat.digitChar value := by
  rcases digit with lower | upper
  · obtain ⟨within, rfl⟩ := List.getElem?_eq_some_iff.mp lower
    exact hexValue?_lowerDigits ⟨value, within⟩
  · obtain ⟨within, rfl⟩ := List.getElem?_eq_some_iff.mp upper
    exact hexValue?_upperDigits ⟨value, within⟩

private theorem lt_of_hexValue? (read : hexValue? c = some value) : c.toNat < 128 := by
  have le_of {last : Char} (upTo : c ≤ last) (small : last.toNat < 128) : c.toNat < 128 :=
    Nat.lt_of_le_of_lt (UInt32.le_iff_toNat_le.mp (Char.le_def.mp upTo)) small
  unfold hexValue? at read
  split at read
  · next decimal => exact le_of decimal.2 (by decide)
  · split at read
    · next lower => exact le_of lower.2 (by decide)
    · split at read
      · next upper => exact le_of upper.2 (by decide)
      · cases read

private theorem isDigitOf_of_hexValue? :
    ∀ code < 128, ∀ value ∈ hexValue? (Char.ofNat code),
      lowerDigits[value]? = some (Char.ofNat code) ∨
        upperDigits[value]? = some (Char.ofNat code) := by decide

theorem hexValue?_eq_some_iff : hexValue? c = some value ↔ IsDigitOf c value := by
  refine ⟨fun read => ?_, fun digit => digit.read.1⟩
  have digit := isDigitOf_of_hexValue? c.toNat (lt_of_hexValue? read) value
  rw [Char.ofNat_toNat] at digit
  exact digit read

theorem isHexDigit_iff : isHexDigit c = true ↔ ∃ value, IsDigitOf c value := by
  rw [isHexDigit, Option.isSome_iff_exists]
  exact exists_congr fun value => hexValue?_eq_some_iff

theorem IsDigitOf.lt_128 (digit : IsDigitOf c value) : c.toNat < 128 :=
  lt_of_hexValue? digit.read.1

private theorem isDigitOf_digitChar :
    ∀ value < 16, lowerDigits[value]? = some (Nat.digitChar value) := by decide

end Digit

theorem spells_hexPair (byte : UInt8) : Spells (hexPair byte) byte := by
  have small := byte.toNat_lt
  have high : byte.toNat / 16 < 16 := by omega
  have low : byte.toNat % 16 < 16 := by omega
  exact ⟨_, _, _, _, rfl, .inl (isDigitOf_digitChar _ high), .inl (isDigitOf_digitChar _ low),
    (Nat.div_add_mod _ _).symm⟩

theorem Spells.toLower {pair : List Char} {byte : UInt8} (spells : Spells pair byte) :
    pair.map Char.toLower = hexPair byte := by
  obtain ⟨high, low, x, y, rfl, first, second, value⟩ := spells
  have small := second.lt
  have quotient : byte.toNat / 16 = x := by omega
  have rest : byte.toNat % 16 = y := by omega
  rw [hexPair, quotient, rest, ← first.read.2, ← second.read.2]
  rfl

theorem Spells.isDigit {pair : List Char} {byte : UInt8} (spells : Spells pair byte) :
    ∀ c ∈ pair, ∃ value, IsDigitOf c value := by
  obtain ⟨high, low, x, y, rfl, first, second, -⟩ := spells
  exact List.forall_mem_cons.mpr ⟨⟨x, first⟩, List.forall_mem_singleton.mpr ⟨y, second⟩⟩

theorem exists_spells {high low : Char} {x y : Nat} (first : IsDigitOf high x)
    (second : IsDigitOf low y) : ∃ byte, Spells [high, low] byte := by
  have highest := first.lt
  have lowest := second.lt
  refine ⟨UInt8.ofNat (16 * x + y), high, low, x, y, rfl, first, second, ?_⟩
  rw [UInt8.toNat_ofNat']
  omega

/-- Three pairs next to each other are read as one number, the first of them on top. -/
theorem hexNumber?_spells {first second third : List Char} {top middle bottom : UInt8}
    (tops : Spells first top) (middles : Spells second middle) (bottoms : Spells third bottom) :
    hexNumber? (first ++ second ++ third) =
      some (top.toNat * 65536 + middle.toNat * 256 + bottom.toNat) := by
  obtain ⟨a, b, u, v, rfl, da, db, value⟩ := tops
  obtain ⟨c, d, w, x, rfl, dc, dd, value'⟩ := middles
  obtain ⟨e, f, y, z, rfl, de, df, value''⟩ := bottoms
  -- No digit is a sign, so the digits are read from the first on.
  have unsigned : a ≠ '+' := by
    rintro rfl
    have refused : hexValue? '+' = none := by decide
    exact nomatch refused.symm.trans da.read.1
  have digits : hexNumber? ([a, b] ++ [c, d] ++ [e, f]) = hexDigits? [a, b, c, d, e, f] := by
    unfold hexNumber?
    split
    · next same => exact absurd (List.head_eq_of_cons_eq same) unsigned
    · rfl
  have read : [a, b, c, d, e, f].mapM hexValue? = some [u, v, w, x, y, z] := by
    simp [List.mapM_cons, da.read.1, db.read.1, dc.read.1, dd.read.1, de.read.1, df.read.1]
  rw [digits, hexDigits?, read, value, value', value'']
  · simp only [Option.map_some, List.foldl_cons, List.foldl_nil]
    congr 1
    omega
  · exact nofun

end TtyFrame.Text

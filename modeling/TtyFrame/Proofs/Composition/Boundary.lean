import TtyFrame.Proofs.Composition.Accumulator

/-! Byte offsets between the characters of a text. A range of bytes can be replaced exactly
if both its ends are such offsets and come in order, and then it is one of three parts that
make up the text. -/

set_option autoImplicit false

namespace TtyFrame.Composition

variable {text front back : List Char} {offset : Nat} {span : Span}

private theorem size_utf8Encode (text : List Char) : text.utf8Encode.size = byteLength text := by
  induction text with
  | nil => rfl
  | cons c rest ih =>
      rw [List.utf8Encode_cons, ByteArray.size_append, List.utf8Encode_singleton,
        List.size_toByteArray, String.length_utf8EncodeChar, ih, byteLength]

private theorem utf8ByteSize_ofList (text : List Char) :
    (String.ofList text).utf8ByteSize = byteLength text := by
  rw [String.utf8ByteSize, String.toByteArray_ofList, size_utf8Encode]

theorem extract_front (front back : List Char) :
    (front ++ back).utf8Encode.extract 0 (byteLength front) = front.utf8Encode := by
  rw [List.utf8Encode_append]
  exact ByteArray.extract_append_eq_left (size_utf8Encode front).symm

theorem extract_back (front back : List Char) :
    (front ++ back).utf8Encode.extract (byteLength front) (byteLength (front ++ back)) =
      back.utf8Encode := by
  rw [List.utf8Encode_append, byteLength_append, ← size_utf8Encode, ← size_utf8Encode]
  exact ByteArray.extract_append_eq_right rfl rfl

private theorem byteLength_le_of_beginning (beginning : front <+: text) :
    byteLength front ≤ byteLength text := by
  obtain ⟨back, rfl⟩ := beginning
  rw [byteLength_append]
  exact Nat.le_add_right _ _

/-- Of two beginnings of a text, the one that has no more bytes is a beginning of the other. -/
theorem beginning_of_byteLength_le {other : List Char} (first : front <+: text)
    (second : other <+: text) (shorter : byteLength front ≤ byteLength other) :
    front <+: other := by
  rcases List.prefix_or_prefix_of_prefix first second with within | ⟨rest, rfl⟩
  · exact within
  · -- A longer beginning with no more bytes has no further character.
    cases rest with
    | nil => simp
    | cons c rest =>
        have positive := byteLength_pos_iff.mpr (List.cons_ne_nil c rest)
        rw [byteLength_append] at shorter
        omega

/-- A character starts at the offset, or the text ends there. -/
def Boundary (text : List Char) (offset : Nat) : Prop :=
  (⟨offset⟩ : String.Pos.Raw).IsValid (String.ofList text)

private theorem boundary_iff_beginning :
    Boundary text offset ↔ ∃ front, front <+: text ∧ byteLength front = offset := by
  rw [Boundary, String.Pos.Raw.isValid_ofList]
  simp only [utf8ByteSize_ofList]
  constructor
  · rintro ⟨count, rfl⟩
    exact ⟨text.take count, text.take_prefix count, rfl⟩
  · rintro ⟨front, beginning, rfl⟩
    exact ⟨front.length, by rw [← List.prefix_iff_eq_take.mp beginning]⟩

private theorem Boundary.le_byteLength (boundary : Boundary text offset) :
    offset ≤ byteLength text := by
  obtain ⟨front, beginning, rfl⟩ := boundary_iff_beginning.mp boundary
  exact byteLength_le_of_beginning beginning

private theorem splitAtByte?_sound (split : splitAtByte? text offset = some (front, back)) :
    front ++ back = text ∧ byteLength front = offset := by
  fun_induction splitAtByte? text offset generalizing front with
  | case1 text =>
      cases split
      exact ⟨rfl, rfl⟩
  | case2 => cases split
  | case3 c rest offset _ fits ih =>
      obtain ⟨⟨first, second⟩, found, same⟩ := Option.map_eq_some_iff.mp split
      cases same
      obtain ⟨rfl, length⟩ := ih found
      refine ⟨rfl, ?_⟩
      rw [byteLength, length]
      omega
  | case4 => cases split

/-- A text can be split exactly at its boundaries. -/
theorem splitAtByte?_isSome_iff : (splitAtByte? text offset).isSome ↔ Boundary text offset := by
  rw [boundary_iff_beginning]
  constructor
  · intro found
    obtain ⟨⟨front, back⟩, split⟩ := Option.isSome_iff_exists.mp found
    obtain ⟨rfl, length⟩ := splitAtByte?_sound split
    exact ⟨front, List.prefix_append front back, length⟩
  · rintro ⟨front, ⟨back, rfl⟩, rfl⟩
    rw [splitAtByte?_append, Option.isSome_some]

/-- Bytes of the text, from one boundary to another. -/
structure Span.Fits (span : Span) (text : List Char) : Prop where
  ordered : span.start ≤ span.stop
  inside : span.stop ≤ byteLength text
  start : Boundary text span.start
  stop : Boundary text span.stop

namespace Span

theorem fits_parts (before composed after : List Char) :
    Fits ⟨byteLength before, byteLength before + byteLength composed⟩
      (before ++ composed ++ after) where
  ordered := Nat.le_add_right _ _
  inside := by
    rw [← byteLength_append]
    exact byteLength_le_of_beginning (List.prefix_append _ after)
  start := boundary_iff_beginning.mpr ⟨before, by simp, rfl⟩
  stop := boundary_iff_beginning.mpr ⟨before ++ composed, by simp, byteLength_append _ _⟩

theorem Fits.parts (fits : span.Fits text) :
    ∃ before composed after, text = before ++ composed ++ after ∧
      span = ⟨byteLength before, byteLength before + byteLength composed⟩ := by
  obtain ⟨before, beginning, startLength⟩ := boundary_iff_beginning.mp fits.start
  obtain ⟨through, reaching, stopLength⟩ := boundary_iff_beginning.mp fits.stop
  have ordered := fits.ordered
  rw [← startLength, ← stopLength] at ordered
  obtain ⟨composed, rfl⟩ := beginning_of_byteLength_le beginning reaching ordered
  obtain ⟨after, rfl⟩ := reaching
  rw [byteLength_append] at stopLength
  exact ⟨before, composed, after, rfl, by rw [stopLength, startLength]⟩

end Span

/-- The ranges that can be replaced are those that fit. -/
theorem replaceRange?_isSome_iff (new : List Char) :
    (replaceRange? text span new).isSome ↔ span.Fits text := by
  constructor
  · intro replaced
    unfold replaceRange? at replaced
    split at replaced
    · next before _ _ after atStart atStop =>
      split at replaced
      · next ordered =>
        have start := splitAtByte?_isSome_iff.mp (Option.isSome_of_eq_some atStart)
        have stop := splitAtByte?_isSome_iff.mp (Option.isSome_of_eq_some atStop)
        exact ⟨ordered, stop.le_byteLength, start, stop⟩
      · cases replaced
    · cases replaced
  · intro fits
    obtain ⟨before, composed, after, rfl, rfl⟩ := fits.parts
    rw [replaceRange?_append, Option.isSome_some]

/-- Pulling the length of a beginning back into a shortened text gives the length of what
is left of that beginning. -/
theorem min_byteLength_take (front back : List Char) (count : Nat) :
    min (byteLength front) (byteLength ((front ++ back).take count)) =
      byteLength (front.take count) := by
  rw [List.take_append, byteLength_append]
  by_cases kept : front.length ≤ count
  · rw [List.take_of_length_le kept]
    exact Nat.min_eq_left (Nat.le_add_right _ _)
  · have nothing : count - front.length = 0 := by omega
    have beginning : front.take count <+: front := List.take_prefix count front
    rw [nothing, List.take_zero, byteLength, Nat.add_zero]
    exact Nat.min_eq_right (byteLength_le_of_beginning beginning)

end TtyFrame.Composition

import TtyFrame.Color
import TtyFrame.Proofs.Text.Hexadecimal
import TtyFrame.Proofs.Text.Trimming

/-! Colours as texts. A text is read exactly if six hexadecimal digits are left of it without
the blanks around it and one sharp sign, and what is written is read back. -/

set_option autoImplicit false

namespace TtyFrame.Rgb

open Text

/-- Three pairs of digits spell the channels. -/
def SpelledBy (color : Rgb) (digits : List Char) : Prop :=
  ∃ red green blue, digits = red ++ green ++ blue ∧
    Spells red color.red ∧ Spells green color.green ∧ Spells blue color.blue

/-- A text takes six bytes, and all of them are ASCII. -/
def SixAscii (digits : List Char) : Prop :=
  (String.ofList digits).utf8ByteSize = 6 ∧ ∀ c ∈ digits, c.toNat < 128

private theorem utf8ByteSize_of_ascii {digits : List Char} (ascii : ∀ c ∈ digits, c.toNat < 128) :
    (String.ofList digits).utf8ByteSize = digits.length := by
  induction digits with
  | nil => rfl
  | cons c rest ih =>
    have own : c.utf8Size = 1 :=
      Char.utf8Size_eq_one_iff.mpr
        (UInt32.le_iff_toNat_le.mpr (Nat.le_of_lt_succ (ascii c List.mem_cons_self)))
    have behind := ih fun d member => ascii d (List.mem_cons_of_mem c member)
    rw [String.ofList_cons, String.utf8ByteSize_append, String.utf8ByteSize_singleton, own, behind,
      List.length_cons, Nat.add_comm]

private theorem sixAscii_iff (digits : List Char) :
    SixAscii digits ↔ digits.length = 6 ∧ digits.all (·.toNat < 128) = true := by
  simp only [SixAscii, List.all_eq_true, decide_eq_true_eq]
  exact and_congr_left fun ascii => by rw [utf8ByteSize_of_ascii ascii]

private theorem ofPacked_packed (color : Rgb) : ofPacked color.packed = color := by
  obtain ⟨red, green, blue⟩ := color
  have greens := green.toNat_lt
  have blues := blue.toNat_lt
  simp only [packed, ofPacked, mk.injEq, ← UInt8.toNat_inj, UInt8.toNat_ofNat']
  have reds := red.toNat_lt
  omega

namespace SpelledBy

variable {color : Rgb} {digits : List Char}

theorem length (spelled : color.SpelledBy digits) : digits.length = 6 := by
  obtain ⟨-, -, -, rfl, ⟨_, _, _, _, rfl, -⟩, ⟨_, _, _, _, rfl, -⟩, ⟨_, _, _, _, rfl, -⟩⟩ := spelled
  rfl

theorem isDigit (spelled : color.SpelledBy digits) :
    ∀ c ∈ digits, ∃ value, IsDigitOf c value := by
  obtain ⟨red, green, blue, rfl, reds, greens, blues⟩ := spelled
  exact List.forall_mem_append.mpr
    ⟨List.forall_mem_append.mpr ⟨reds.isDigit, greens.isDigit⟩, blues.isDigit⟩

theorem number (spelled : color.SpelledBy digits) : hexNumber? digits = some color.packed := by
  obtain ⟨red, green, blue, rfl, reds, greens, blues⟩ := spelled
  exact hexNumber?_spells reds greens blues

theorem written (spelled : color.SpelledBy digits) :
    color.chars = '#' :: digits.map Char.toLower := by
  obtain ⟨red, green, blue, rfl, reds, greens, blues⟩ := spelled
  rw [List.map_append, List.map_append, reds.toLower, greens.toLower, blues.toLower, Rgb.chars]

private theorem sixAscii (spelled : color.SpelledBy digits) : SixAscii digits := by
  refine (sixAscii_iff digits).mpr ⟨spelled.length, List.all_eq_true.mpr fun c member => ?_⟩
  obtain ⟨value, digit⟩ := spelled.isDigit c member
  exact decide_eq_true digit.lt_128

end SpelledBy

private theorem exists_spelledBy {digits : List Char} (six : digits.length = 6)
    (hex : ∀ c ∈ digits, ∃ value, IsDigitOf c value) : ∃ color : Rgb, color.SpelledBy digits := by
  match digits, six with
  | [a, b, c, d, e, f], _ =>
    simp only [List.forall_mem_cons] at hex
    obtain ⟨⟨u, da⟩, ⟨v, db⟩, ⟨w, dc⟩, ⟨x, dd⟩, ⟨y, de⟩, ⟨z, df⟩, -⟩ := hex
    obtain ⟨red, reds⟩ := exists_spells da db
    obtain ⟨green, greens⟩ := exists_spells dc dd
    obtain ⟨blue, blues⟩ := exists_spells de df
    exact ⟨⟨red, green, blue⟩, _, _, _, rfl, reds, greens, blues⟩

/-- What is left of a text without the blanks around it and one sharp sign. -/
def bare (source : String) : List Char := dropSharp (trim source.toList)

section Parse

variable (source : String)

private theorem parse_cases :
    (∃ color : Rgb, color.SpelledBy (bare source) ∧ parse source = .ok color) ∨
      (¬ SixAscii (bare source) ∧ parse source = .error (.format source)) ∨
      SixAscii (bare source) ∧ (∃ c ∈ bare source, ∀ value, ¬ IsDigitOf c value) ∧
        parse source = .error (.digits source) := by
  unfold parse
  rw [← bare]
  by_cases six : SixAscii (bare source)
  · have fits := (sixAscii_iff _).mp six
    by_cases hex : (bare source).all isHexDigit = true
    · have digits : ∀ c ∈ bare source, ∃ value, IsDigitOf c value := fun c member =>
        isHexDigit_iff.mp (List.all_eq_true.mp hex c member)
      obtain ⟨color, spelled⟩ := exists_spelledBy fits.1 digits
      refine .inl ⟨color, spelled, ?_⟩
      rw [if_pos fits, if_pos hex, spelled.number]
      exact congrArg Except.ok (ofPacked_packed color)
    · obtain ⟨c, member, other⟩ : ∃ c ∈ bare source, ¬ isHexDigit c = true := by
        simpa using hex
      have stray : ∀ value, ¬ IsDigitOf c value := fun value digit =>
        other (isHexDigit_iff.mpr ⟨value, digit⟩)
      refine .inr (.inr ⟨six, ⟨c, member, stray⟩, ?_⟩)
      rw [if_pos fits, if_neg hex]
  · exact .inr (.inl ⟨six, if_neg fun fits => six ((sixAscii_iff _).mpr fits)⟩)

theorem parse_eq_ok_iff (color : Rgb) :
    parse source = .ok color ↔ color.SpelledBy (bare source) := by
  obtain ⟨own, spelled, read⟩ | ⟨other, read⟩ | ⟨-, ⟨c, member, stray⟩, read⟩ := parse_cases source
  · rw [read, Except.ok.injEq]
    refine ⟨fun same => same ▸ spelled, fun again => ?_⟩
    have packs := Option.some.inj (spelled.number.symm.trans again.number)
    rw [← ofPacked_packed own, packs, ofPacked_packed]
  · rw [read]
    exact iff_of_false nofun fun spelled => other spelled.sixAscii
  · rw [read]
    refine iff_of_false nofun fun spelled => ?_
    obtain ⟨value, digit⟩ := spelled.isDigit c member
    exact stray value digit

theorem parse_eq_format_iff (carried : String) :
    parse source = .error (.format carried) ↔ carried = source ∧ ¬ SixAscii (bare source) := by
  obtain ⟨color, spelled, read⟩ | ⟨other, read⟩ | ⟨six, -, read⟩ := parse_cases source
  · rw [read]
    exact iff_of_false nofun fun refused => refused.2 spelled.sixAscii
  · rw [read]
    simp [other, eq_comm]
  · rw [read]
    exact iff_of_false nofun fun refused => refused.2 six

theorem parse_eq_digits_iff (carried : String) :
    parse source = .error (.digits carried) ↔
      carried = source ∧ SixAscii (bare source) ∧
        ∃ c ∈ bare source, ∀ value, ¬ IsDigitOf c value := by
  obtain ⟨color, spelled, read⟩ | ⟨other, read⟩ | ⟨six, stray, read⟩ := parse_cases source
  · rw [read]
    refine iff_of_false nofun fun ⟨_, _, c, member, stray⟩ => ?_
    obtain ⟨value, digit⟩ := spelled.isDigit c member
    exact stray value digit
  · rw [read]
    exact iff_of_false nofun fun refused => other refused.2.1
  · rw [read]
    simp only [Except.error.injEq, ParseError.digits.injEq, six, stray, and_true, eq_comm]

end Parse

section Text

private theorem isBlank_digitChar : ∀ value < 16, isBlank (Nat.digitChar value) = false := by decide

theorem bare_text (color : Rgb) :
    bare color.text = hexPair color.red ++ hexPair color.green ++ hexPair color.blue := by
  have kept : trim color.chars = color.chars := by
    refine trim_eq_self (fun c first => ?_) fun c last => ?_
    · obtain rfl : '#' = c := Option.some.inj first
      decide
    · have final : color.chars.getLast? = some (Nat.digitChar (color.blue.toNat % 16)) := by
        simp [Rgb.chars, hexPair]
      obtain rfl := Option.some.inj (final.symm.trans last)
      exact isBlank_digitChar _ (Nat.mod_lt _ (by decide))
  rw [bare, text, String.toList_ofList, kept]
  rfl

private theorem spelledBy_bare_text (color : Rgb) : color.SpelledBy (bare color.text) := by
  rw [bare_text]
  exact ⟨_, _, _, rfl, spells_hexPair _, spells_hexPair _, spells_hexPair _⟩

end Text

/-- Reading looks at what is left of a text without the blanks around it and one sharp sign.
If that is six hexadecimal digits of either case, the three pairs are the channels, and the
colour is written as the same digits in lower case behind a sharp sign. Otherwise the error
says whether it is no six bytes of ASCII or has some other character among them, and carries
the text as it was given; once all six are digits the number they stand for is always found.
What is written is read back. -/
theorem parse_exact :
    (∀ source, Trimmed source.toList (trim source.toList) ∧
      let digits := dropSharp (trim source.toList)
      (∀ color, parse source = .ok color ↔ color.SpelledBy digits) ∧
        ((∃ color, parse source = .ok color) ↔
          digits.length = 6 ∧ ∀ c ∈ digits, ∃ value, IsDigitOf c value) ∧
        (∀ carried, parse source = .error (.format carried) ↔
          carried = source ∧ ¬ SixAscii digits) ∧
        (∀ carried, parse source = .error (.digits carried) ↔
          carried = source ∧ SixAscii digits ∧ ∃ c ∈ digits, ∀ value, ¬ IsDigitOf c value) ∧
        (digits.length = 6 → digits.all isHexDigit = true → hexNumber? digits ≠ none) ∧
        ∀ color, parse source = .ok color →
          color.text = String.ofList ('#' :: digits.map Char.toLower)) ∧
      ∀ color, parse color.text = .ok color := by
  refine ⟨fun source => ⟨trim_trimmed _, parse_eq_ok_iff source, ?_, parse_eq_format_iff source,
    parse_eq_digits_iff source, fun six hex => ?_, fun color read => ?_⟩, fun color => ?_⟩
  · simp only [parse_eq_ok_iff]
    exact ⟨fun ⟨color, spelled⟩ => ⟨spelled.length, spelled.isDigit⟩,
      fun ⟨six, hex⟩ => exists_spelledBy six hex⟩
  · obtain ⟨color, spelled⟩ := exists_spelledBy six fun c member =>
      isHexDigit_iff.mp (List.all_eq_true.mp hex c member)
    rw [spelled.number]
    exact Option.some_ne_none _
  · rw [text, ((parse_eq_ok_iff source color).mp read).written, bare]
  · exact (parse_eq_ok_iff color.text color).mpr color.spelledBy_bare_text

/-- A number may start with a sign, but a sign is no digit of a colour. -/
example : hexNumber? "+12345".toList = some 0x12345 ∧ isHexDigit '+' = false := by decide

end TtyFrame.Rgb

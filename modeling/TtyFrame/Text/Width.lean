import TtyFrame.Text.Extending
import TtyFrame.Text.Ignorable
import TtyFrame.Text.Wide

/-!
# Column width of a character

How many terminal columns one character takes outside an East Asian context.
-/

set_option autoImplicit false

namespace TtyFrame.Text

/-- Control characters: the general category Cc. -/
def isControl (c : Char) : Bool :=
  c.toNat < 0x20 || (0x7F ≤ c.toNat && c.toNat < 0xA0)

/-- Vowels and final consonants of decomposed Hangul syllables. -/
def isJoiningJamo (c : Char) : Bool :=
  (0x1160 ≤ c.toNat && c.toNat ≤ 0x11FF) || (0xD7B0 ≤ c.toNat && c.toNat ≤ 0xD7C6) ||
    (0xD7CB ≤ c.toNat && c.toNat ≤ 0xD7FB)

/-- Number signs that enclose the digits after them, and a caret that stands above. -/
def isEnclosingSign (c : Char) : Bool :=
  [0x0605, 0x070F, 0x0890, 0x0891, 0x08E2, 0xA8FA].contains c.toNat

/-- Characters that are drawn over or into the character before them. -/
def isZeroWidth (c : Char) : Bool :=
  isIgnorable c || isExtending c || isJoiningJamo c || isEnclosingSign c

/-- The columns a character takes; a control character has no width. The Tifinagh
joiner and three letters with filler or abbreviation glyphs are listed on their own. -/
def columnWidth? (c : Char) : Option Nat :=
  if isControl c then none
  else if c.toNat < 0x7F then some 1
  else if c.toNat = 0x2D7F then some 1
  else if c.toNat = 0x115F ∨ c.toNat = 0x17A4 then some 2
  else if c.toNat = 0x17D8 then some 3
  else if isZeroWidth c then some 0
  else if isWide c then some 2
  else some 1

end TtyFrame.Text

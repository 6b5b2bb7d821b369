/-!
# Decoding UTF-8 byte by byte

A decoder that takes one byte at a time. A sequence that breaks off is reported before
the byte that broke it is looked at anew.
-/

set_option autoImplicit false

namespace TtyFrame.Text

/-- A character that has begun: how many bytes are still to come, the bounds on the next
of them, and the bits so far. -/
structure Utf8Tail where
  missing : Nat
  low : UInt8
  high : UInt8
  value : Nat
deriving DecidableEq, Repr

inductive Utf8Start where
  | complete (c : Char)
  | lead (tail : Utf8Tail)
  /-- No character begins with this byte. -/
  | invalid
deriving DecidableEq, Repr

/-- What a byte outside any character begins. -/
def utf8Start (byte : UInt8) : Utf8Start :=
  if byte < 0x80 then .complete (Char.ofNat byte.toNat)
  else if byte < 0xC2 then .invalid
  else if byte < 0xE0 then .lead ⟨1, 0x80, 0xBF, byte.toNat - 0xC0⟩
  else if byte < 0xF0 then
    .lead ⟨2, if byte = 0xE0 then 0xA0 else 0x80, if byte = 0xED then 0x9F else 0xBF,
      byte.toNat - 0xE0⟩
  else if byte < 0xF5 then
    .lead ⟨3, if byte = 0xF0 then 0x90 else 0x80, if byte = 0xF4 then 0x8F else 0xBF,
      byte.toNat - 0xF0⟩
  else .invalid

def Utf8Tail.accepts (tail : Utf8Tail) (byte : UInt8) : Bool :=
  tail.low ≤ byte && byte ≤ tail.high

def Utf8Tail.push (tail : Utf8Tail) (byte : UInt8) : Utf8Tail :=
  ⟨tail.missing - 1, 0x80, 0xBF, 64 * tail.value + (byte.toNat - 0x80)⟩

/-- The character, when no byte is missing. -/
def Utf8Tail.char? (tail : Utf8Tail) : Option Char :=
  if tail.missing = 0 then some (Char.ofNat tail.value) else none

/-- Stands for bytes that are no character. -/
def replacement : Char := '\ufffd'

end TtyFrame.Text

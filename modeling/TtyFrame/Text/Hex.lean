/-!
# Hexadecimal numerals

Digits of either case are read; lower case is written.
-/

set_option autoImplicit false

namespace TtyFrame.Text

/-- The value of a hexadecimal digit of either case. -/
def hexValue? (c : Char) : Option Nat :=
  if '0' ≤ c ∧ c ≤ '9' then some (c.toNat - '0'.toNat)
  else if 'a' ≤ c ∧ c ≤ 'f' then some (c.toNat - 'a'.toNat + 10)
  else if 'A' ≤ c ∧ c ≤ 'F' then some (c.toNat - 'A'.toNat + 10)
  else none

def isHexDigit (c : Char) : Bool := (hexValue? c).isSome

/-- The value of a non-empty run of digits, most significant first. -/
def hexDigits? : List Char → Option Nat
  | [] => none
  | digits => (digits.mapM hexValue?).map (·.foldl (fun value digit => 16 * value + digit) 0)

/-- The value of a numeral, which may start with a plus sign. -/
def hexNumber? : List Char → Option Nat
  | '+' :: digits => hexDigits? digits
  | digits => hexDigits? digits

def hexPair (byte : UInt8) : List Char :=
  [Nat.digitChar (byte.toNat / 16), Nat.digitChar (byte.toNat % 16)]

/-- A number in as few digits as it needs. -/
def hexNumeral (value : Nat) : List Char := Nat.toDigits 16 value

end TtyFrame.Text

import TtyFrame.Decimal.Range
import TtyFrame.Text.Hex

/-!
# Numbers of TOML

Integers of 64 bits in four bases and numbers with a fraction or an exponent.
Underscores may stand between two digits.
-/

set_option autoImplicit false

namespace TtyFrame.Toml

open Text

/-- A digit below the base, of either case. -/
def digitValue? (base : Nat) (c : Char) : Option Nat :=
  (hexValue? c).bind fun value => if value < base then some value else none

/-- Digits with single underscores between them, as their values in reverse; `before`
holds those already read, and an underscore needs a digit after it. -/
def digitRun (base : Nat) : List Nat → List Char → Option (List Nat × List Char)
  | before, '_' :: c :: rest =>
    match before, digitValue? base c with
    | [], _ => none
    | _, some value => digitRun base (value :: before) rest
    | _, none => none
  | before, c :: rest =>
    match digitValue? base c with
    | some value => digitRun base (value :: before) rest
    | none => if before.isEmpty ∨ c = '_' then none else some (before.reverse, c :: rest)
  | before, [] => if before.isEmpty then none else some (before.reverse, [])

def ofDigits (base : Nat) (digits : List Nat) : Nat :=
  digits.foldl (fun value digit => base * value + digit) 0

/-- A number in the range of 64-bit integers. -/
def inRange (value : Int) : Bool := -9223372036854775808 ≤ value && value ≤ 9223372036854775807

/-- A decimal number without its sign: a lone zero, or digits that start with another. -/
def decimalDigits? : List Char → Option (List Nat × List Char)
  | '0' :: rest => some ([0], rest)
  | text => digitRun 10 [] text

/-- A sign and the rest; `true` stands for a minus. -/
def sign : List Char → Bool × List Char
  | '-' :: rest => (true, rest)
  | '+' :: rest => (false, rest)
  | text => (false, text)

/-- The base that a marker after a leading zero names. -/
def markedBase? : Char → Option Nat
  | 'x' => some 16
  | 'o' => some 8
  | 'b' => some 2
  | _ => none

/-- An integer. A base marker takes no sign. -/
def integer? (text : List Char) : Option (Int × List Char) :=
  match text with
  | '0' :: marker :: rest =>
    match markedBase? marker with
    | some base =>
      (digitRun base [] rest).bind fun run =>
        let value : Int := ofDigits base run.1
        if inRange value then some (value, run.2) else none
    | none => some (0, marker :: rest)
  | _ =>
    let (negative, digits) := sign text
    (decimalDigits? digits).bind fun run =>
      let value : Int := ofDigits 10 run.1
      let value := if negative then -value else value
      if inRange value then some (value, run.2) else none

def fraction? : List Char → Option (List Nat × List Char)
  | '.' :: rest => digitRun 10 [] rest
  | text => some ([], text)

def exponent? : List Char → Option (Int × List Char)
  | 'e' :: rest | 'E' :: rest =>
    let (negative, digits) := sign rest
    (digitRun 10 [] digits).map fun run =>
      let value : Int := ofDigits 10 run.1
      (if negative then -value else value, run.2)
  | text => some (0, text)

/-- A number has a fraction or an exponent if one of these follows its digits. -/
def startsFraction : List Char → Bool
  | '.' :: _ | 'e' :: _ | 'E' :: _ => true
  | _ => false

/-- The rest after a number with a fraction or an exponent. A positive one must lie in
the range of doubles. The inner `none` says that the number is malformed, the outer
that it is not of this kind. -/
def float? (text : List Char) : Option (Option (List Char)) :=
  let (negative, digits) := sign text
  match digits with
  | 'i' :: 'n' :: 'f' :: rest => some (some rest)
  | 'n' :: 'a' :: 'n' :: rest => some (some rest)
  | _ =>
    match decimalDigits? digits with
    | none => none
    | some (whole, rest) =>
      if startsFraction rest then
        some <| (fraction? rest).bind fun places =>
          (exponent? places.2).bind fun power =>
            let place := power.1 - places.1.length
            if !negative && Decimal.overflows (ofDigits 10 (whole ++ places.1)) place then none
            else some power.2
      else none

end TtyFrame.Toml

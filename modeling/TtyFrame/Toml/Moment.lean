/-!
# Dates and times of TOML

A date, a time, or both with an optional offset from universal time. Only their form
and ranges matter here, so a reader gives no more than the characters after it.
-/

set_option autoImplicit false

namespace TtyFrame.Toml

/-- Reads exactly the given number of digits. -/
def fixedDigits? : Nat → Nat → List Char → Option (Nat × List Char)
  | 0, value, text => some (value, text)
  | count + 1, value, c :: rest =>
    if c.isDigit then fixedDigits? count (10 * value + (c.toNat - '0'.toNat)) rest else none
  | _ + 1, _, [] => none

def twoDigits? (least greatest : Nat) (text : List Char) : Option (Nat × List Char) :=
  (fixedDigits? 2 0 text).bind fun read =>
    if least ≤ read.1 ∧ read.1 ≤ greatest then some read else none

def after? (c : Char) : List Char → Option (List Char)
  | d :: rest => if d = c then some rest else none
  | [] => none

/-- A year of the proleptic Gregorian calendar with 366 days. -/
def isLeap (year : Nat) : Bool :=
  year % 4 = 0 && (year % 100 ≠ 0 || year % 400 = 0)

def daysIn (year month : Nat) : Nat :=
  if month = 2 then if isLeap year then 29 else 28
  else if month = 4 ∨ month = 6 ∨ month = 9 ∨ month = 11 then 30 else 31

/-- Four digits and a hyphen start a date. -/
def startsDate (text : List Char) : Bool :=
  (((fixedDigits? 4 0 text).bind fun year => after? '-' year.2)).isSome

def date? (text : List Char) : Option (List Char) := do
  let (year, rest) ← fixedDigits? 4 0 text
  let rest ← after? '-' rest
  let (month, rest) ← twoDigits? 1 12 rest
  let rest ← after? '-' rest
  let (day, rest) ← twoDigits? 1 31 rest
  if daysIn year month < day then none else some rest

/-- An hour and a colon start a time. -/
def startsTime (text : List Char) : Bool :=
  (((twoDigits? 0 23 text).bind fun hour => after? ':' hour.2)).isSome

/-- The rest after an optional fraction of a second. -/
def skipFraction : List Char → List Char
  | '.' :: c :: rest => if c.isDigit then rest.dropWhile Char.isDigit else '.' :: c :: rest
  | text => text

/-- The rest after a time. The last minute of a day may have a second 60. -/
def time? (text : List Char) : Option (List Char) := do
  let (_, rest) ← twoDigits? 0 23 text
  let rest ← after? ':' rest
  let (_, rest) ← twoDigits? 0 59 rest
  let rest ← after? ':' rest
  let (_, rest) ← twoDigits? 0 60 rest
  some (skipFraction rest)

/-- The rest after an optional offset from universal time. -/
def offset? : List Char → Option (List Char)
  | 'Z' :: rest | 'z' :: rest => some rest
  | '+' :: rest | '-' :: rest => do
    let (_, rest) ← twoDigits? 0 23 rest
    let rest ← after? ':' rest
    let (_, rest) ← twoDigits? 0 59 rest
    some rest
  | text => some text

/-- The rest after the time and offset that may follow a date behind a `T` or a space. -/
def dayTime? : List Char → Option (List Char)
  | c :: rest =>
    if (c = 'T' ∨ c = 't' ∨ c = ' ') ∧ startsTime rest then (time? rest).bind offset?
    else some (c :: rest)
  | [] => some []

/-- The rest after a date, a time or both. The inner `none` says that it is malformed,
the outer that neither stands ahead. -/
def moment? (text : List Char) : Option (Option (List Char)) :=
  if startsDate text then some ((date? text).bind dayTime?)
  else if startsTime text then some (time? text)
  else none

end TtyFrame.Toml

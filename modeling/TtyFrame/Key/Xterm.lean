import TtyFrame.Key.Encoding
import TtyFrame.Text.Bytes

/-!
# The xterm encoding of logical keys

Cursor keys, editing keys and function keys as xterm sends them, with the modifiers as
a parameter of the sequence.
-/

set_option autoImplicit false

namespace TtyFrame.Xterm

open Text

def cursorLetter? : LogicalKey → Option String
  | .up => some "A"
  | .down => some "B"
  | .right => some "C"
  | .left => some "D"
  | .home => some "H"
  | .endKey => some "F"
  | _ => none

def editingNumber? : LogicalKey → Option Nat
  | .insert => some 2
  | .delete => some 3
  | .pageUp => some 5
  | .pageDown => some 6
  | _ => none

def functionLetters : List String := ["P", "Q", "R", "S"]

/-- The numbers of the function keys from the fifth on. -/
def functionNumbers : List Nat :=
  [15, 17, 18, 19, 20, 21, 23, 24, 25, 26, 28, 29, 31, 32, 33, 34, 42, 43, 44, 45]

def parameter (held : Modifiers) : String := numeral (1 + held.rank)

/-- A sequence with a number before a tilde and the modifiers after it. -/
def tilde (number : Nat) (held : Modifiers) : String :=
  if held.rank = 0 then "\x1b[" ++ numeral number ++ "~"
  else "\x1b[" ++ numeral number ++ ";" ++ parameter held ++ "~"

/-- A sequence with a final letter and the modifiers before it. -/
def lettered (letter : String) (held : Modifiers) : String :=
  "\x1b[1;" ++ parameter held ++ letter

/-- The sequence of a function key. The first four count super as a modifier. -/
def function? (number : Nat) (held : Modifiers) : Option String :=
  if number = 0 then none
  else
    match functionLetters[number - 1]? with
    | some letter =>
      some (if held.isEmpty then "\x1bO" ++ letter else lettered letter held)
    | none => functionNumbers[number - 5]?.map (tilde · held)

/-- Backspace deletes, or with control erases backwards; alt puts an escape before it. -/
def backspace (held : Modifiers) : String :=
  (if held.alt then "\x1b" else "") ++ (if held.control then "\x08" else "\x7f")

/-- The sequence of a key; `applicationCursor` says that cursor keys without modifiers
use the application form. -/
def sequence? (applicationCursor : Bool) (key : LogicalKey) (held : Modifiers) :
    Option String :=
  match key with
  | .backspace => some (backspace held)
  | .function number => function? number held
  | key =>
    match cursorLetter? key, editingNumber? key with
    | some letter, _ =>
      some (if held.rank ≠ 0 then lettered letter held
        else if applicationCursor then "\x1bO" ++ letter else "\x1b[" ++ letter)
    | none, some number => some (tilde number held)
    | none, none => none

def encoder (applicationCursor : Bool) : LogicalEncoder := fun key held =>
  (sequence? applicationCursor key held).map bytes

end TtyFrame.Xterm

namespace TtyFrame

def refusing : LogicalEncoder := fun _ _ => none

end TtyFrame

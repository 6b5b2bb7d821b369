/-!
# Keys

Physical keys by their numbers, the modifiers held with them, and the logical keys
whose bytes hang on modifiers and terminal modes.
-/

set_option autoImplicit false

namespace TtyFrame

structure KeyCode where
  number : Nat
deriving DecidableEq, Repr

namespace KeyCode

def back : KeyCode := ⟨4⟩
def up : KeyCode := ⟨19⟩
def down : KeyCode := ⟨20⟩
def left : KeyCode := ⟨21⟩
def right : KeyCode := ⟨22⟩
def letterA : KeyCode := ⟨29⟩
def letterC : KeyCode := ⟨31⟩
def letterZ : KeyCode := ⟨54⟩
def tab : KeyCode := ⟨61⟩
def enter : KeyCode := ⟨66⟩
def backspace : KeyCode := ⟨67⟩
def pageUp : KeyCode := ⟨92⟩
def pageDown : KeyCode := ⟨93⟩
def escape : KeyCode := ⟨111⟩
def delete : KeyCode := ⟨112⟩
def home : KeyCode := ⟨122⟩
def endKey : KeyCode := ⟨123⟩
def insert : KeyCode := ⟨124⟩
def function1 : KeyCode := ⟨131⟩
def numpadEnter : KeyCode := ⟨160⟩

/-- The key of an ASCII letter of either case. -/
def letter? (c : Char) : Option KeyCode :=
  if c.toUpper.isUpper then some ⟨letterA.number + (c.toUpper.toNat - 'A'.toNat)⟩ else none

/-- The place of a letter key in the alphabet, from 0. -/
def letterIndex? (code : KeyCode) : Option Nat :=
  if letterA.number ≤ code.number ∧ code.number ≤ letterZ.number then
    some (code.number - letterA.number)
  else none

def function? (number : Nat) : Option KeyCode :=
  if 1 ≤ number ∧ number ≤ 12 then some ⟨function1.number + number - 1⟩ else none

def isEnter (code : KeyCode) : Bool := code = enter || code = numpadEnter

end KeyCode

structure Modifiers where
  shift : Bool := false
  alt : Bool := false
  control : Bool := false
  super : Bool := false
deriving DecidableEq, Repr

namespace Modifiers

/-- The modifiers of a bit set: shift 1, alt 2, control 4, super 8. Other bits do not count. -/
def ofBits (bits : Nat) : Modifiers :=
  ⟨bits.testBit 0, bits.testBit 1, bits.testBit 2, bits.testBit 3⟩

def isEmpty (held : Modifiers) : Bool := held = {}

/-- The number that xterm writes for the modifiers, less one; super does not count. -/
def rank (held : Modifiers) : Nat :=
  held.shift.toNat + 2 * held.alt.toNat + 4 * held.control.toNat

end Modifiers

/-- A key that went down or up. -/
structure KeyEvent where
  code : KeyCode
  modifiers : Modifiers := {}
  isDown : Bool := true
deriving DecidableEq, Repr

/-- A key whose bytes hang on modifiers and terminal modes. -/
inductive LogicalKey where
  | up
  | down
  | left
  | right
  | home
  | endKey
  | pageUp
  | pageDown
  | insert
  | delete
  | backspace
  | function (number : Nat)
deriving DecidableEq, Repr

namespace LogicalKey

/-- The keys without a number, with their names. -/
def named : List (String × LogicalKey) :=
  [("Up", .up), ("Down", .down), ("Left", .left), ("Right", .right), ("Home", .home),
   ("End", .endKey), ("PageUp", .pageUp), ("PageDown", .pageDown), ("Insert", .insert),
   ("Delete", .delete), ("Backspace", .backspace)]

def name : LogicalKey → String
  | .function number => "F" ++ toString number
  | key => ((named.find? (·.2 = key)).map (·.1)).getD ""

def ofName? (name : String) : Option LogicalKey :=
  match named.find? (·.1 = name) with
  | some (_, key) => some key
  | none =>
    match name.toList with
    | 'F' :: digits => (String.ofList digits).toNat?.map .function
    | _ => none

end LogicalKey

end TtyFrame

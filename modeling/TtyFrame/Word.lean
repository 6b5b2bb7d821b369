/-!
# Machine words

Numbers of 64 bits without a sign. A sum, a product or a difference that is none of them
stops a computation, and so does a request for more bytes than an object can have. How much
memory there really is, is not part of it.
-/

set_option autoImplicit false

namespace TtyFrame

/-- What stops a computation with machine words. -/
inductive Trap where
  | overflow
  | outOfBounds
  /-- Room was asked for more bytes than one object can have. -/
  | capacity
deriving DecidableEq, Repr

namespace Word

/-- The largest machine word. -/
def largest : Nat := 18446744073709551615

/-- The most bytes that one object can have. -/
def largestSize : Nat := 9223372036854775807

def add (a b : Nat) : Except Trap Nat :=
  if a + b ≤ largest then .ok (a + b) else .error .overflow

def mul (a b : Nat) : Except Trap Nat :=
  if a * b ≤ largest then .ok (a * b) else .error .overflow

def sub (a b : Nat) : Except Trap Nat :=
  if b ≤ a then .ok (a - b) else .error .overflow

/-- Makes room for a number of elements, each of so many bytes. -/
def reserve (count width : Nat) : Except Trap Unit :=
  if count * width ≤ largestSize then .ok () else .error .capacity

variable {β : Type} {a b : Nat}

theorem ok_bind {α : Type} (value : α) (next : α → Except Trap β) :
    (Except.ok value >>= next) = next value := rfl

theorem add_bind (fits : a + b ≤ largest) (next : Nat → Except Trap β) :
    (add a b >>= next) = next (a + b) := by
  rw [add, if_pos fits]
  rfl

theorem mul_bind (fits : a * b ≤ largest) (next : Nat → Except Trap β) :
    (mul a b >>= next) = next (a * b) := by
  rw [mul, if_pos fits]
  rfl

theorem sub_bind (within : b ≤ a) (next : Nat → Except Trap β) :
    (sub a b >>= next) = next (a - b) := by
  rw [sub, if_pos within]
  rfl

theorem reserve_bind {count width : Nat} (fits : count * width ≤ largestSize)
    (next : Unit → Except Trap β) : (reserve count width >>= next) = next () := by
  rw [reserve, if_pos fits]
  rfl

end Word

end TtyFrame

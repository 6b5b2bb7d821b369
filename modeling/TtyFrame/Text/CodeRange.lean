/-!
# Ranges of code points

Character classes are given as tables of inclusive ranges.
-/

set_option autoImplicit false

namespace TtyFrame.Text

/-- An inclusive range of code points: first and last. -/
abbrev CodeRange := Nat × Nat

def covers (ranges : Array CodeRange) (c : Char) : Bool :=
  ranges.any fun range => range.1 ≤ c.toNat && c.toNat ≤ range.2

end TtyFrame.Text

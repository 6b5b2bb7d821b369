/-!
# Composition strategies

How text that is still being composed is kept on the way to the terminal.
-/

set_option autoImplicit false

namespace TtyFrame.Composition

inductive Strategy where
  /-- Composed text is kept until it is committed or finished. -/
  | buffered
  /-- Only whether a composition is open is kept. -/
  | flag
deriving DecidableEq, Repr, Inhabited

def Strategy.name : Strategy → String
  | .buffered => "buffered"
  | .flag => "flag"

def Strategy.ofName? (name : String) : Option Strategy :=
  if name = "buffered" then some .buffered
  else if name = "flag" then some .flag
  else none

end TtyFrame.Composition

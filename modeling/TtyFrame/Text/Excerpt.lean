/-!
# Excerpts

The beginning of a text, for a place with little room.
-/

set_option autoImplicit false

namespace TtyFrame.Text

/-- At most the given number of characters from the start of a text. -/
def excerpt (text : String) (limit : Nat) : String :=
  String.ofList (text.toList.take limit)

end TtyFrame.Text

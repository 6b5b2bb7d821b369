/-!
# Line ends

A terminal takes one carriage return for each line end. Text from elsewhere ends
its lines with a line feed or with both characters.
-/

set_option autoImplicit false

namespace TtyFrame.Text

/-- Each carriage return with the line feed after it becomes one carriage return. -/
def joinLineEnds : List Char → List Char
  | '\r' :: '\n' :: rest => '\r' :: joinLineEnds rest
  | c :: rest => c :: joinLineEnds rest
  | [] => []

/-- Each line feed becomes a carriage return. -/
def returnLineFeeds (text : List Char) : List Char :=
  text.map fun c => if c = '\n' then '\r' else c

/-- The characters of a text whose line ends are all single carriage returns. Text
without a line feed is kept as it is. -/
def normalizeChars (text : List Char) : List Char :=
  if '\n' ∈ text then returnLineFeeds (joinLineEnds text) else text

def normalizeLineEnds (text : String) : String :=
  String.ofList (normalizeChars text.toList)

end TtyFrame.Text

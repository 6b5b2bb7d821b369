import TtyFrame.Color
import TtyFrame.Decimal.Shortest

/-!
# Colours from loosely typed values

A colour in structured data is a text. Any other kind of value is refused with a
message that names its kind.
-/

set_option autoImplicit false

namespace TtyFrame.Rgb

/-- A value in structured data. -/
inductive Loose where
  | text (value : String)
  | integer (value : Int)
  /-- A floating point number, by the bits of its double. -/
  | float (bits : UInt64)
  | boolean (value : Bool)
  | sequence
  | map
deriving DecidableEq, Repr

def Loose.kind : Loose → String
  | .text _ => "string"
  | .integer value => "integer `" ++ toString value ++ "`"
  | .float bits => "floating point `" ++ Decimal.textOfBits bits ++ "`"
  | .boolean value => "boolean `" ++ (if value then "true" else "false") ++ "`"
  | .sequence => "sequence"
  | .map => "map"

inductive LooseError where
  | text (cause : ParseError)
  | kind (value : Loose)
deriving DecidableEq, Repr

def LooseError.message : LooseError → String
  | .text cause => cause.message
  | .kind value => "invalid type: " ++ value.kind ++ ", expected a string"

def ofLoose : Loose → Except LooseError Rgb
  | .text value => (parse value).mapError .text
  | value => .error (.kind value)

end TtyFrame.Rgb

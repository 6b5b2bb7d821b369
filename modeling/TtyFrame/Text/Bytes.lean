/-!
# Text as bytes

What a text puts on the wire.
-/

set_option autoImplicit false

namespace TtyFrame.Text

def bytes (text : String) : List UInt8 := text.toUTF8.toList

def numeral (value : Nat) : String := String.ofList (Nat.toDigits 10 value)

end TtyFrame.Text

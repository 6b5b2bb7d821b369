import TtyFrame.Text.Extending
import TtyFrame.Text.Hex
import TtyFrame.Text.Unprintable

/-!
# Quoted text

Text between double quotes in messages: the quote, the backslash and the common
controls have short escapes, and what could not be seen is written by its code point.
-/

set_option autoImplicit false

namespace TtyFrame.Text

def codePointEscape (c : Char) : List Char :=
  "\\u\x7b".toList ++ hexNumeral c.toNat ++ ['}']

/-- A character as it stands inside quotes. -/
def quoteChar (c : Char) : List Char :=
  match c with
  | '\x00' => ['\\', '0']
  | '\t' => ['\\', 't']
  | '\r' => ['\\', 'r']
  | '\n' => ['\\', 'n']
  | '"' => ['\\', '"']
  | '\\' => ['\\', '\\']
  | _ => if isExtending c || isUnprintable c then codePointEscape c else [c]

def quote (text : String) : String :=
  String.ofList ('"' :: text.toList.flatMap quoteChar ++ ['"'])

end TtyFrame.Text

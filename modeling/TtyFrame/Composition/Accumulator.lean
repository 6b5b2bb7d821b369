/-!
# Accumulated text

Text that an input method has written and the terminal has not received yet. The part
that is still being composed is a span of byte offsets.
-/

set_option autoImplicit false

namespace TtyFrame.Composition

def byteLength : List Char → Nat
  | [] => 0
  | c :: rest => c.utf8Size + byteLength rest

/-- Splits a text at a byte offset, if no character straddles it. -/
def splitAtByte? : List Char → Nat → Option (List Char × List Char)
  | text, 0 => some ([], text)
  | [], _ + 1 => none
  | c :: rest, offset =>
    if c.utf8Size ≤ offset then
      (splitAtByte? rest (offset - c.utf8Size)).map fun parts => (c :: parts.1, parts.2)
    else none

structure Span where
  start : Nat
  stop : Nat
deriving DecidableEq, Repr

/-- The span brought back within a text of the given length. -/
def Span.within (span : Span) (length : Nat) : Span :=
  let stop := min span.stop length
  ⟨min span.start stop, stop⟩

/-- Replaces a range of bytes. There is no result if the range is reversed, leaves the
text or cuts a character. -/
def replaceRange? (text : List Char) (span : Span) (new : List Char) : Option (List Char) :=
  match splitAtByte? text span.start, splitAtByte? text span.stop with
  | some (before, _), some (_, after) =>
    if span.start ≤ span.stop then some (before ++ new ++ after) else none
  | _, _ => none

/-- Text not yet sent, with the span that is being composed. -/
structure Accumulator where
  text : List Char := []
  composing : Option Span := none
deriving DecidableEq, Repr

namespace Accumulator

def isEmpty (acc : Accumulator) : Bool := acc.text.isEmpty

def hasComposing (acc : Accumulator) : Bool :=
  match acc.composing with
  | some span => span.start < span.stop
  | none => false

/-- Where new text starts: at the composing span, or at the end. -/
def insertionStart (acc : Accumulator) : Nat :=
  match acc.composing with
  | some span => span.start
  | none => byteLength acc.text

/-- The text after the composing span gave way to new text, or the new text came to the
end. There is none if the span does not fit the text. -/
def replaced? (acc : Accumulator) (new : List Char) : Option (List Char) :=
  match acc.composing with
  | some span => replaceRange? acc.text span new
  | none => some (acc.text ++ new)

/-- The same, with the text left as it is where the span does not fit. -/
def replaced (acc : Accumulator) (new : List Char) : List Char :=
  (acc.replaced? new).getD acc.text

def setComposing (acc : Accumulator) (new : List Char) : Accumulator :=
  { text := acc.replaced new
    composing := some ⟨acc.insertionStart, acc.insertionStart + byteLength new⟩ }

def commit (acc : Accumulator) (new : List Char) : Accumulator :=
  { text := acc.replaced new, composing := none }

def finish (acc : Accumulator) : Accumulator := { acc with composing := none }

/-- Deletes characters before the cursor, which stands at the end of the text. Gives
also how many there were to delete. -/
def deleteBefore (acc : Accumulator) (count : Nat) : Accumulator × Nat :=
  let text := acc.text.take (acc.text.length - count)
  ({ text, composing := acc.composing.map (·.within (byteLength text)) },
    min count acc.text.length)

def take (acc : Accumulator) : Accumulator × List Char := ({}, acc.text)

end Accumulator

end TtyFrame.Composition

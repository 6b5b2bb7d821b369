import TtyFrame.Text.Utf8

/-!
# Terminal output as instructions

Splits the bytes that a program writes into characters, control codes and escape
sequences. The lexer takes one byte at a time, so a sequence may be cut anywhere.
-/

set_option autoImplicit false

namespace TtyFrame.Screen

open Text

inductive Instruction where
  | print (c : Char)
  | control (byte : UInt8)
  /-- An escape sequence with its intermediate bytes and its final byte. -/
  | escape (intermediates : List UInt8) (final : UInt8)
  /-- A control sequence; each parameter has one or more parts. -/
  | sequence (parameters : List (List Nat)) (intermediates : List UInt8)
      (final : UInt8)
  /-- An operating system command with its fields; `bell` says how it was ended. -/
  | command (fields : List (List UInt8)) (bell : Bool)
deriving DecidableEq, Repr

inductive Phase where
  | ground
  | escape
  | escapeIntermediate
  | sequenceEntry
  | sequenceParameter
  | sequenceIntermediate
  | sequenceIgnore
  | deviceEntry
  | deviceParameter
  | deviceIntermediate
  | deviceBody
  /-- A string that means nothing here, up to the next escape. -/
  | ignoredString
  | command
deriving DecidableEq, Repr

structure Lexer where
  phase : Phase := .ground
  /-- A character that has begun. -/
  tail : Option Utf8Tail := none
  intermediates : List UInt8 := []
  /-- The sequence has more parts than are kept, and will be dropped. -/
  overflowed : Bool := false
  /-- The complete parameters, last first. -/
  parameters : List (List Nat) := []
  /-- The complete parts of the current parameter, last first. -/
  parts : List Nat := []
  /-- The number of complete parts of all parameters. -/
  partCount : Nat := 0
  number : Nat := 0
  /-- The complete fields of a command, last first. -/
  fields : List (List UInt8) := []
  /-- The current field of a command, last byte first. -/
  field : List UInt8 := []
deriving DecidableEq, Repr

namespace Lexer

/-- The most parts that the parameters of a sequence may have. -/
def maxParts : Nat := 32

def maxIntermediates : Nat := 2

/-- The most fields of a command that are kept. -/
def maxFields : Nat := 16

def maxNumber : Nat := 65535

/-- What a step gives: the lexer after it and what it has read. -/
abbrev Result := Lexer × List Instruction

def clear (lexer : Lexer) (phase : Phase) : Lexer :=
  { lexer with
    phase, intermediates := [], overflowed := false, parameters := [], parts := []
    partCount := 0, number := 0 }

def enter (lexer : Lexer) (phase : Phase) : Lexer := { lexer with phase }

def collect (lexer : Lexer) (byte : UInt8) : Lexer :=
  if lexer.intermediates.length = maxIntermediates then { lexer with overflowed := true }
  else { lexer with intermediates := lexer.intermediates ++ [byte] }

/-- No further part fits. -/
def isFull (lexer : Lexer) : Bool := lexer.partCount = maxParts

def digit (lexer : Lexer) (byte : UInt8) : Lexer :=
  if lexer.isFull then { lexer with overflowed := true }
  else
    let tens := min (10 * lexer.number) maxNumber
    { lexer with number := min (tens + (byte.toNat - 0x30)) maxNumber }

def endPart (lexer : Lexer) : Lexer :=
  if lexer.isFull then { lexer with overflowed := true }
  else
    { lexer with
      parts := lexer.number :: lexer.parts, partCount := lexer.partCount + 1, number := 0 }

def endParameter (lexer : Lexer) : Lexer :=
  if lexer.isFull then { lexer with overflowed := true }
  else
    { lexer with
      parameters := (lexer.number :: lexer.parts).reverse :: lexer.parameters
      parts := [], partCount := lexer.partCount + 1, number := 0 }

/-- Ends a control sequence; one with too many parts is dropped. -/
def endSequence (lexer : Lexer) (final : UInt8) : Result :=
  let done := lexer.endParameter
  (done.enter .ground,
    if done.overflowed then []
    else [.sequence done.parameters.reverse done.intermediates final])

def endEscape (lexer : Lexer) (final : UInt8) : Result :=
  (lexer.enter .ground, [.escape lexer.intermediates final])

def endField (lexer : Lexer) : Lexer :=
  if lexer.fields.length = maxFields then lexer
  else { lexer with fields := lexer.field.reverse :: lexer.fields, field := [] }

def endCommand (lexer : Lexer) (bell : Bool) (phase : Phase) : Result :=
  let done := lexer.endField
  ({ done with fields := [], field := [] }.clear phase, [.command done.fields.reverse bell])

/-- A control code that is obeyed inside of sequences. -/
def isControl (byte : UInt8) : Bool :=
  byte ≤ 0x17 || byte = 0x19 || (0x1C ≤ byte && byte ≤ 0x1F)

def within (byte low high : UInt8) : Bool := low ≤ byte && byte ≤ high

/-- What a byte does in any sequence unless the sequence says otherwise: cancel it, begin
another, or nothing. -/
def anywhere (lexer : Lexer) (byte : UInt8) : Result :=
  if byte = 0x18 || byte = 0x1A then (lexer.enter .ground, [.control byte])
  else if byte = 0x1B then (lexer.clear .escape, [])
  else (lexer, [])

/-- A character outside of sequences. Control characters of either block are codes. -/
def dispatch (c : Char) : Instruction :=
  if c.toNat < 0x20 || (0x80 ≤ c.toNat && c.toNat ≤ 0x9F) then .control (UInt8.ofNat c.toNat)
  else .print c

/-- A byte at the start of a character outside of sequences. -/
def groundStart (lexer : Lexer) (byte : UInt8) : Result :=
  if byte = 0x1B then (lexer.clear .escape, [])
  else
    match utf8Start byte with
    | .complete c => (lexer, [dispatch c])
    | .lead tail => ({ lexer with tail := some tail }, [])
    | .invalid => (lexer, [if byte ≤ 0x9F then .control byte else .print replacement])

def ground (lexer : Lexer) (byte : UInt8) : Result :=
  match lexer.tail with
  | none => lexer.groundStart byte
  | some tail =>
    if tail.accepts byte then
      match (tail.push byte).char? with
      | some c => ({ lexer with tail := none }, [dispatch c])
      | none => ({ lexer with tail := some (tail.push byte) }, [])
    else
      let (next, read) := { lexer with tail := none }.groundStart byte
      (next, .print replacement :: read)

def afterEscape (lexer : Lexer) (byte : UInt8) : Result :=
  if isControl byte then (lexer, [.control byte])
  else if within byte 0x20 0x2F then ((lexer.collect byte).enter .escapeIntermediate, [])
  else if byte = 0x50 then (lexer.clear .deviceEntry, [])
  else if byte = 0x58 || byte = 0x5E || byte = 0x5F then (lexer.enter .ignoredString, [])
  else if byte = 0x5B then (lexer.clear .sequenceEntry, [])
  else if byte = 0x5D then ({ lexer with phase := .command, fields := [], field := [] }, [])
  else if within byte 0x30 0x7E then lexer.endEscape byte
  else if byte = 0x18 || byte = 0x1A then (lexer.enter .ground, [.control byte])
  else (lexer, [])

def afterEscapeIntermediate (lexer : Lexer) (byte : UInt8) : Result :=
  if isControl byte then (lexer, [.control byte])
  else if within byte 0x20 0x2F then (lexer.collect byte, [])
  else if within byte 0x30 0x7E then lexer.endEscape byte
  else lexer.anywhere byte

def parameterByte (lexer : Lexer) (byte : UInt8) : Lexer :=
  if byte = 0x3A then lexer.endPart
  else if byte = 0x3B then lexer.endParameter
  else lexer.digit byte

def sequenceEntry (lexer : Lexer) (byte : UInt8) : Result :=
  if isControl byte then (lexer, [.control byte])
  else if within byte 0x20 0x2F then ((lexer.collect byte).enter .sequenceIntermediate, [])
  else if within byte 0x30 0x3B then ((lexer.parameterByte byte).enter .sequenceParameter, [])
  else if within byte 0x3C 0x3F then ((lexer.collect byte).enter .sequenceParameter, [])
  else if within byte 0x40 0x7E then lexer.endSequence byte
  else lexer.anywhere byte

def sequenceParameter (lexer : Lexer) (byte : UInt8) : Result :=
  if isControl byte then (lexer, [.control byte])
  else if within byte 0x20 0x2F then ((lexer.collect byte).enter .sequenceIntermediate, [])
  else if within byte 0x30 0x3B then (lexer.parameterByte byte, [])
  else if within byte 0x3C 0x3F then (lexer.enter .sequenceIgnore, [])
  else if within byte 0x40 0x7E then lexer.endSequence byte
  else lexer.anywhere byte

def sequenceIntermediate (lexer : Lexer) (byte : UInt8) : Result :=
  if isControl byte then (lexer, [.control byte])
  else if within byte 0x20 0x2F then (lexer.collect byte, [])
  else if within byte 0x30 0x3F then (lexer.enter .sequenceIgnore, [])
  else if within byte 0x40 0x7E then lexer.endSequence byte
  else lexer.anywhere byte

/-- A byte of a control sequence that is malformed. -/
def sequenceIgnore (lexer : Lexer) (byte : UInt8) : Result :=
  if isControl byte then (lexer, [.control byte])
  else if within byte 0x40 0x7E then (lexer.enter .ground, [])
  else lexer.anywhere byte

/-- A byte before the body of a device control string; `phase` is where it stands. -/
def deviceHeader (lexer : Lexer) (byte : UInt8) : Result :=
  if within byte 0x20 0x2F then (lexer.enter .deviceIntermediate, [])
  else if within byte 0x40 0x7E then (lexer.enter .deviceBody, [])
  else if within byte 0x30 0x3F then
    if lexer.phase = .deviceEntry || (lexer.phase = .deviceParameter && byte ≤ 0x3B) then
      (lexer.enter .deviceParameter, [])
    else (lexer.enter .ignoredString, [])
  else lexer.anywhere byte

def deviceBody (lexer : Lexer) (byte : UInt8) : Result :=
  if byte = 0x9C then (lexer.enter .ground, []) else lexer.anywhere byte

def inCommand (lexer : Lexer) (byte : UInt8) : Result :=
  if byte = 0x07 then lexer.endCommand true .ground
  else if byte = 0x18 || byte = 0x1A then
    let (next, read) := lexer.endCommand false .ground
    (next, read ++ [.control byte])
  else if byte = 0x1B then lexer.endCommand false .escape
  else if byte < 0x20 then (lexer, [])
  else if byte = 0x3B then (lexer.endField, [])
  else ({ lexer with field := byte :: lexer.field }, [])

def step (lexer : Lexer) (byte : UInt8) : Result :=
  match lexer.phase with
  | .ground => lexer.ground byte
  | .escape => lexer.afterEscape byte
  | .escapeIntermediate => lexer.afterEscapeIntermediate byte
  | .sequenceEntry => lexer.sequenceEntry byte
  | .sequenceParameter => lexer.sequenceParameter byte
  | .sequenceIntermediate => lexer.sequenceIntermediate byte
  | .sequenceIgnore => lexer.sequenceIgnore byte
  | .deviceEntry | .deviceParameter | .deviceIntermediate => lexer.deviceHeader byte
  | .deviceBody => lexer.deviceBody byte
  | .ignoredString => lexer.anywhere byte
  | .command => lexer.inCommand byte

end Lexer

end TtyFrame.Screen

import TtyFrame.Screen.Override
import TtyFrame.Screen.State
import TtyFrame.Text.Bytes

/-!
# Operating system commands

The commands that set, ask for and forget colours, and the one that shapes the cursor.
-/

set_option autoImplicit false

namespace TtyFrame.Screen

open Text

/-- The number of a field, below 256. -/
def fieldNumber? (field : List UInt8) : Option Nat :=
  if field.isEmpty then none
  else
    field.foldlM (fun value byte =>
      let next := 10 * value + (byte.toNat - 0x30)
      if 0x30 ≤ byte ∧ byte ≤ 0x39 ∧ next < 256 then some next else none) 0

def field (text : String) : List UInt8 := bytes text

namespace State

def setColor (state : State) (slot : Nat) (color : Rgb) : State :=
  { state with overrides := state.overrides.set slot color }

def resetColor (state : State) (slot : Nat) : State :=
  { state with overrides := state.overrides.reset slot }

/-- The answer to a question for a colour. The terminal does not tell its colours: every
one is said to be black. -/
def colorReply (name : String) (bell : Bool) : Reply :=
  .text ("\x1b]" ++ name ++ ";rgb:0000/0000/0000" ++ if bell then "\x07" else "\x1b\\")

def colorField (state : State) (slot : Nat) (name : String) (bell : Bool)
    (value : List UInt8) : State × List Reply :=
  match colorSpec? value with
  | some color => (state.setColor slot color, [])
  | none => (state, if value = field "?" then [colorReply name bell] else [])

/-- Sets or asks for indexed colours, given as pairs of an index and a value. -/
def indexedColors (state : State) (bell : Bool) : List (List UInt8) → State × List Reply
  | index :: value :: rest =>
    let (next, replies) :=
      match fieldNumber? index with
      | some index => state.colorField index ("4;" ++ numeral index) bell value
      | none => (state, [])
    let (last, more) := next.indexedColors bell rest
    (last, replies ++ more)
  | _ => (state, [])

/-- Sets or asks for the foreground, background and cursor colours, the first of them by
its number and those after it in order. -/
def dynamicColors (state : State) (bell : Bool) : Nat → List (List UInt8) → State × List Reply
  | number, value :: rest =>
    if 12 < number then (state, [])
    else
      let (next, replies) := state.colorField (246 + number) (numeral number) bell value
      let (last, more) := next.dynamicColors bell (number + 1) rest
      (last, replies ++ more)
  | _, [] => (state, [])

def resetColors (state : State) (indices : List (List UInt8)) : State :=
  indices.foldl (fun state index =>
    match fieldNumber? index with
    | some index => state.resetColor index
    | none => state) state

def commandShape? : UInt8 → Option PointerShape
  | 0x30 => some .block
  | 0x31 => some .beam
  | 0x32 => some .underline
  | _ => none

def shapePointer (state : State) (value : List UInt8) : State :=
  let name := field "CursorShape="
  match (value.drop name.length).head?.bind commandShape? with
  | some shape =>
    if value.take name.length = name then
      { state with pointer := some { state.pointerStyle with shape } }
    else state
  | none => state

/-- Forgets indexed colours: those of a list, or all of them if it is empty or begins with
an empty field. -/
def forgetColors (state : State) (indices : List (List UInt8)) : State :=
  if (indices.headD []).isEmpty then { state with overrides := state.overrides.resetPalette }
  else state.resetColors indices

def command (state : State) (fields : List (List UInt8)) (bell : Bool) : State × List Reply :=
  let rest := fields.drop 1
  match (asciiChars? (fields.headD [])).map String.ofList with
  | some "4" => if rest.length % 2 = 0 then state.indexedColors bell rest else (state, [])
  | some "10" => state.dynamicColors bell 10 rest
  | some "11" => state.dynamicColors bell 11 rest
  | some "12" => state.dynamicColors bell 12 rest
  | some "50" => (state.shapePointer (rest.headD []), [])
  | some "104" => (state.forgetColors rest, [])
  | some "110" => (state.resetColor NamedColor.foreground.slot, [])
  | some "111" => (state.resetColor NamedColor.background.slot, [])
  | some "112" => (state.resetColor NamedColor.cursor.slot, [])
  | _ => (state, [])

end State

end TtyFrame.Screen

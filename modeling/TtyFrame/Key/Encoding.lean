import TtyFrame.Key

/-!
# Keys as bytes

What the terminal is sent for a physical key. Keys with fixed bytes are encoded here;
all others go to an encoder for logical keys, which may refuse them.
-/

set_option autoImplicit false

namespace TtyFrame

/-- An encoder for logical keys; it may refuse a key. -/
abbrev LogicalEncoder := LogicalKey → Modifiers → Option (List UInt8)

inductive KeyBinding where
  | bytes (bytes : List UInt8)
  | logical (key : LogicalKey)
deriving DecidableEq, Repr

namespace KeyCode

/-- The keys with a binding, the function keys left out. -/
def bindings : List (KeyCode × KeyBinding) :=
  [(escape, .bytes [0x1B]), (back, .bytes [0x1B]), (tab, .bytes [0x09]),
   (up, .logical .up), (down, .logical .down), (left, .logical .left),
   (right, .logical .right), (home, .logical .home), (endKey, .logical .endKey),
   (pageUp, .logical .pageUp), (pageDown, .logical .pageDown), (insert, .logical .insert),
   (delete, .logical .delete), (backspace, .logical .backspace)]

def binding? (code : KeyCode) : Option KeyBinding :=
  if function1.number ≤ code.number ∧ code.number < function1.number + 12 then
    some (.logical (.function (code.number - function1.number + 1)))
  else (bindings.find? (·.1 = code)).map (·.2)

end KeyCode

inductive KeyEncoding where
  | bytes (bytes : List UInt8)
  /-- Nothing is sent, and nobody else may handle the event. -/
  | consumed
  /-- It is not a terminal key. -/
  | unhandled
deriving DecidableEq, Repr

namespace KeyEvent

/-- The bytes of a key that goes down: enter and control letters first, then bindings. -/
def encodeDown (event : KeyEvent) (encoder : LogicalEncoder) : KeyEncoding :=
  if event.code.isEnter then .bytes [0x0D]
  else
    match event.modifiers.control, event.code.letterIndex? with
    | true, some index => .bytes [UInt8.ofNat (index + 1)]
    | _, _ =>
      match event.code.binding? with
      | some (.bytes bytes) => .bytes bytes
      | some (.logical key) =>
        match encoder key event.modifiers with
        | some bytes => .bytes bytes
        | none => .unhandled
      | none => .unhandled

/-- What becomes of a key event; a key that goes up sends nothing. -/
def encode (event : KeyEvent) (encoder : LogicalEncoder) : KeyEncoding :=
  if event.isDown then event.encodeDown encoder else .consumed

end KeyEvent

end TtyFrame

import TtyFrame.Buffer

/-!
# Terminal engines

What a session asks of the terminal engine that it works with. The engine parses the output
of programs and keeps the screen that a view reads.
-/

set_option autoImplicit false

namespace TtyFrame

/-- What a program is answered. -/
inductive Reply where
  | text (text : String)
  /-- The size of the whole grid in pixels, which only the session knows. -/
  | pixelSize
deriving DecidableEq, Repr

/-- An engine with screens `ε`. -/
class Engine (ε : Type) where
  /-- What is kept of a program's output between two pieces of it. -/
  Stream : Type
  fresh : Stream
  /-- An empty screen of some columns and lines, with the most lines of history. -/
  blank : Nat → Nat → Nat → ε
  resize : ε → Nat → Nat → ε
  takeBytes : Stream → ε → List UInt8 → Stream × ε × List Reply
  view : ε → BufferView
  /-- The program has switched the cursor keys to application mode. -/
  applicationCursor : ε → Bool

end TtyFrame

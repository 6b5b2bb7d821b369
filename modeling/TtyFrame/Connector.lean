import TtyFrame.Size

/-!
# Connectors

A connector carries bytes between a session and a program at the other end. Every call
may fail, and what a failed call leaves behind is up to the connector.
-/

set_option autoImplicit false

namespace TtyFrame

structure Fault where
  message : String
deriving DecidableEq, Repr

/-- What a session asks of a connector. -/
class Connector (κ : Type) where
  /-- Gives the reading half away. -/
  takeReader : κ → κ × Except Fault Unit
  write : κ → List UInt8 → κ × Except Fault Unit
  resize : κ → Size → κ × Except Fault Unit
  /-- Disconnects. What is on its way can still be read. -/
  close : κ → κ

end TtyFrame

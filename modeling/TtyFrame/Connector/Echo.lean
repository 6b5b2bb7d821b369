import TtyFrame.Connector

/-!
# The echo connector

A loopback connector: everything written to it comes back as output. It stands in for a
remote shell.
-/

set_option autoImplicit false

namespace TtyFrame

/-- Bytes on their way to a reader. -/
structure Pipe where
  /-- The bytes not yet read, oldest first. -/
  pending : List UInt8 := []
  closed : Bool := false
deriving DecidableEq, Repr

namespace Pipe

/-- Puts bytes in; a closed pipe takes none. -/
def write (pipe : Pipe) (bytes : List UInt8) : Pipe :=
  if pipe.closed then pipe else { pipe with pending := pipe.pending ++ bytes }

def close (pipe : Pipe) : Pipe := { pipe with closed := true }

/-- A read into a buffer of the given size would have to wait. -/
def wouldBlock (pipe : Pipe) (size : Nat) : Bool :=
  0 < size && pipe.pending.isEmpty && !pipe.closed

/-- Reads into a buffer of the given size. No bytes mean the end of the stream, or that
the buffer had no room. -/
def read (pipe : Pipe) (size : Nat) : Pipe × List UInt8 :=
  ({ pipe with pending := pipe.pending.drop size }, pipe.pending.take size)

/-- A read that began before something else happened to the pipe: with bytes pending it is
over first, and without any it waits for what happens. -/
def readAcross (pipe : Pipe) (size : Nat) (happen : Pipe → Pipe) : Pipe × List UInt8 :=
  if pipe.wouldBlock size then (happen pipe).read size
  else
    let (rest, bytes) := pipe.read size
    (happen rest, bytes)

end Pipe

structure Echo where
  pipe : Pipe := {}
  readerTaken : Bool := false
deriving DecidableEq, Repr

namespace Echo

def withOutput (text : String) : Echo := { pipe := ({} : Pipe).write text.toUTF8.toList }

def name : String := "mock-echo"

/-- The connector had given its reader away. -/
inductive Error where
  | readerTaken
deriving DecidableEq, Repr

def Error.message : Error → String
  | .readerTaken => "echo connector reader already taken"

def takeReader (echo : Echo) : Except Error Echo :=
  if echo.readerTaken then .error .readerTaken else .ok { echo with readerTaken := true }

def write (echo : Echo) (bytes : List UInt8) : Echo :=
  { echo with pipe := echo.pipe.write bytes }

def close (echo : Echo) : Echo := { echo with pipe := echo.pipe.close }

def isConnected (echo : Echo) : Bool := !echo.pipe.closed

/-- Only the reader can be asked for once too often. -/
instance : Connector Echo where
  takeReader echo :=
    match echo.takeReader with
    | .ok next => (next, .ok ())
    | .error cause => (echo, .error ⟨cause.message⟩)
  write echo bytes := (echo.write bytes, .ok ())
  resize echo _ := (echo, .ok ())
  close := close

end Echo

end TtyFrame

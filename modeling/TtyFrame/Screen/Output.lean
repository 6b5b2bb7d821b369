import TtyFrame.Screen.Sequence

/-!
# Output of a program

Bytes go through the lexer to the screen, in pieces of any size.
-/

set_option autoImplicit false

namespace TtyFrame.Screen

/-- What is kept of a program's output between two pieces of it. -/
structure Stream where
  lexer : Lexer := {}
  last : Option Char := none
deriving DecidableEq, Repr

/-- What a sequence to repeat the last character stands for: as many prints of it. -/
def Stream.expand (stream : Stream) (instruction : Instruction) : Stream × List Instruction :=
  match instruction with
  | .print c => ({ stream with last := some c }, [instruction])
  | .sequence parameters [] 0x62 =>
    match stream.last with
    | some c => (stream, List.replicate ((⟨parameters⟩ : State.Arguments).get 0 1) (.print c))
    | none => (stream, [])
  | _ => (stream, [instruction])

def obeyStep (stream : Stream) (state : State) (instruction : Instruction) :
    Stream × State × List Reply :=
  let (stream, instructions) := stream.expand instruction
  let (state, replies) := state.obeyAll instructions
  (stream, state, replies)

def takeByte (stream : Stream) (state : State) (byte : UInt8) :
    Stream × State × List Reply :=
  let (lexer, instructions) := stream.lexer.step byte
  instructions.foldl (fun (stream, state, replies) instruction =>
    let (stream, state, more) := obeyStep stream state instruction
    (stream, state, replies ++ more)) ({ stream with lexer }, state, [])

def takeBytes (stream : Stream) (state : State) (bytes : List UInt8) :
    Stream × State × List Reply :=
  bytes.foldl (fun (stream, state, replies) byte =>
    let (stream, state, more) := takeByte stream state byte
    (stream, state, if more.isEmpty then replies else replies ++ more)) (stream, state, [])

end TtyFrame.Screen

import TtyFrame.Screen.Output

/-! Output byte by byte. What the lexer reads hangs on the bytes alone, and what is replied has
no part in what comes to the screen. -/

set_option autoImplicit false

namespace TtyFrame.Screen

private theorem Stream.expand_lexer (stream : Stream) (instruction : Instruction) :
    (stream.expand instruction).1.lexer = stream.lexer := by
  unfold expand
  split
  · rfl
  · split <;> rfl
  · rfl

theorem takeByte_lexer (stream : Stream) (state : State) (byte : UInt8) :
    (takeByte stream state byte).1.lexer = (stream.lexer.step byte).1 :=
  List.foldlRecOn (motive := fun taken : Stream × State × List Reply =>
    taken.1.lexer = (stream.lexer.step byte).1) _ _ rfl fun taken same instruction _ =>
      (taken.1.expand_lexer instruction).trans same

/-- What a byte makes of the stream and the screen, whatever is replied. -/
def feed (place : Stream × State) (byte : UInt8) : Stream × State :=
  ((takeByte place.1 place.2 byte).1, (takeByte place.1 place.2 byte).2.1)

theorem foldl_feed (stream : Stream) (state : State) (bytes : List UInt8) :
    bytes.foldl feed (stream, state) =
      ((takeBytes stream state bytes).1, (takeBytes stream state bytes).2.1) := by
  let place (taken : Stream × State × List Reply) : Stream × State := (taken.1, taken.2.1)
  have fed : bytes.foldl feed (place (stream, state, [])) = place (takeBytes stream state bytes) :=
    List.foldl_hom place fun _ _ => rfl
  exact fed

theorem takeBytes_append (stream : Stream) (state : State) (first second : List UInt8) :
    let taken := takeBytes stream state first
    ((takeBytes stream state (first ++ second)).1, (takeBytes stream state (first ++ second)).2.1) =
      ((takeBytes taken.1 taken.2.1 second).1, (takeBytes taken.1 taken.2.1 second).2.1) := by
  dsimp only
  rw [← foldl_feed stream, List.foldl_append, foldl_feed stream, foldl_feed]

end TtyFrame.Screen

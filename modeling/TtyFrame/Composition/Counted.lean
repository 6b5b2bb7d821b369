import TtyFrame.Composition
import TtyFrame.Word

/-!
# Counted deletions

The characters and keys of a deletion are counted in machine words. A deletion whose keys
cannot be counted, or would take more bytes than an object can have, stops everything.
-/

set_option autoImplicit false

namespace TtyFrame.Composition

/-- The bytes that something to send takes in a list of them. -/
def Outgoing.width : Nat := 32

/-- Takes characters off a text, given last character first, until as many are gone as
wanted or none is left. Gives what is left and how many went. -/
def popCounted (wanted : Nat) : Nat → List Char → Except Trap (List Char × Nat)
  | gone, [] => .ok ([], gone)
  | gone, c :: rest =>
    if gone < wanted then do
      let counted ← Word.add gone 1
      popCounted wanted counted rest
    else .ok (c :: rest, gone)

def Accumulator.deleteCounted (acc : Accumulator) (count : Nat) :
    Except Trap (Accumulator × Nat) := do
  let (left, gone) ← popCounted count 0 acc.text.reverse
  let text := left.reverse
  return ({ text, composing := acc.composing.map (·.within (byteLength text)) }, gone)

namespace Session

/-- What a deletion leaves for the terminal, as `absorbDeletion` has it. -/
def absorbCounted (session : Session) (before after : Nat) :
    Except Trap (Session × Option Deletion) :=
  match session with
  | .flag true => return (.flag true, none)
  | .flag false => return (.flag false, some ⟨before, after⟩)
  | .buffered pending => do
    let (rest, absorbed) ← pending.deleteCounted before
    if rest.hasComposing then return (.buffered rest, none)
    else do
      let backspaces ← Word.sub before absorbed
      return (.buffered rest.finish, some ⟨backspaces, after⟩)

variable (width : Nat)

/-- A deletion around the cursor. Room is made for all its keys before any is encoded, each of
so many bytes. -/
def deleteCounted (session : Session) (encoder : LogicalEncoder) (before after : Nat) :
    Except Trap (Session × Response) := do
  match ← session.absorbCounted before after with
  | (next, none) => return (next, ⟨true, []⟩)
  | (next, some deletion) => do
    let keys ← Word.add deletion.backspaces deletion.deletes
    Word.reserve keys width
    return (next, ⟨true, deletion.sends encoder⟩)

/-- An event as `step` takes it, with its counts in machine words. -/
def stepCounted (encoder : LogicalEncoder) (session : Session) :
    Event → Except Trap (Session × Response)
  | .deleteSurrounding before after => session.deleteCounted width encoder before after
  | event => return session.step encoder event

/-- Takes events in order, each with its encoder, and gives the response to each. -/
def followCounted (session : Session) :
    List (LogicalEncoder × Event) → Except Trap (Session × List Response)
  | [] => return (session, [])
  | (encoder, event) :: rest => do
    let (next, response) ← session.stepCounted width encoder event
    let (last, responses) ← followCounted next rest
    return (last, response :: responses)

end Session

end TtyFrame.Composition

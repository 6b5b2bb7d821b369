import TtyFrame.Composition.Accumulator
import TtyFrame.Composition.Strategy
import TtyFrame.Key.Encoding
import TtyFrame.Text.LineEnd
import TtyFrame.Text.Width

/-!
# Composed input

An input method writes composing updates, commits, finishes, deletions and raw keys.
They become what someone at a plain keyboard would have typed: committed text once, no
candidates, and single carriage returns.
-/

set_option autoImplicit false

namespace TtyFrame.Composition

open Text

inductive Outgoing where
  | text (text : String)
  | bytes (bytes : List UInt8)
deriving DecidableEq, Repr

structure Response where
  /-- Nobody else may handle the event. -/
  handled : Bool
  sends : List Outgoing := []
deriving DecidableEq, Repr

inductive EditorAction where
  | done
  | go
  | send
  | other (code : Int)
deriving DecidableEq, Repr

def EditorAction.ofCode (code : Int) : EditorAction :=
  if code = 2 then .go else if code = 4 then .send else if code = 6 then .done else .other code

def EditorAction.isEnter : EditorAction → Bool
  | .done | .go | .send => true
  | .other _ => false

/-- An event from the input method or a keyboard. -/
inductive Event where
  /-- The text being composed has changed. -/
  | compose (text : String)
  /-- A text is final. -/
  | commit (text : String)
  /-- The text being composed is final as it stands. -/
  | finish
  /-- Characters before and after the cursor are to go. -/
  | deleteSurrounding (before after : Nat)
  | action (action : EditorAction)
  /-- A key with the character that the platform has for it. -/
  | key (event : KeyEvent) (character : Option Char)
  | setStrategy (strategy : Strategy)
  /-- The input connection is torn down. -/
  | reset
deriving DecidableEq, Repr

/-- The state of composed input. -/
inductive Session where
  /-- Whether a composition is open. -/
  | flag (active : Bool)
  /-- The text that is not sent yet. -/
  | buffered (pending : Accumulator)
deriving DecidableEq, Repr

structure Deletion where
  backspaces : Nat
  deletes : Nat
deriving DecidableEq, Repr

/-- Sends a text with its line ends made single, if there is any. -/
def textResponse (text : List Char) : Response :=
  if text.isEmpty then ⟨true, []⟩ else ⟨true, [.text (String.ofList (normalizeChars text))]⟩

/-- As many sends of a key as the count says; none of a key that the encoder refuses. -/
def keySends (encoder : LogicalEncoder) (key : LogicalKey) (count : Nat) : List Outgoing :=
  match encoder key {} with
  | some bytes => List.replicate count (.bytes bytes)
  | none => []

def Deletion.sends (deletion : Deletion) (encoder : LogicalEncoder) : List Outgoing :=
  keySends encoder .backspace deletion.backspaces ++ keySends encoder .delete deletion.deletes

/-- What a key sends by itself: its bytes, or its character if that can be printed. -/
def keyResponse (encoder : LogicalEncoder) (event : KeyEvent) (character : Option Char) :
    Response :=
  match event.encode encoder with
  | .bytes bytes => ⟨true, [.bytes bytes]⟩
  | .consumed => ⟨true, []⟩
  | .unhandled =>
    match character with
    | some c => if isControl c then ⟨false, []⟩ else textResponse [c]
    | none => ⟨false, []⟩

namespace Session

def initial : Strategy → Session
  | .flag => .flag false
  | .buffered => .buffered {}

def strategy : Session → Strategy
  | .flag _ => .flag
  | .buffered _ => .buffered

def isComposing : Session → Bool
  | .flag active => active
  | .buffered pending => pending.hasComposing

def pendingText : Session → List Char
  | .flag _ => []
  | .buffered pending => pending.text

def compose (session : Session) (text : List Char) : Session × Response :=
  match session with
  | .flag _ => (.flag (!text.isEmpty), ⟨true, []⟩)
  | .buffered pending => (.buffered (pending.setComposing text), ⟨true, []⟩)

def commit (session : Session) (text : List Char) : Session × Response :=
  match session with
  | .flag _ => (.flag false, textResponse text)
  | .buffered pending =>
    let (rest, committed) := (pending.commit text).take
    (.buffered rest, textResponse committed)

def finish : Session → Session × Response
  | .flag _ => (.flag false, ⟨true, []⟩)
  | .buffered pending =>
    let (rest, finished) := pending.finish.take
    (.buffered rest, textResponse finished)

/-- What a deletion around the cursor leaves for the terminal, if anything: text not yet
sent is deleted first, and while a composition stays open nothing is sent. -/
def absorbDeletion (session : Session) (before after : Nat) : Session × Option Deletion :=
  match session with
  | .flag true => (.flag true, none)
  | .flag false => (.flag false, some ⟨before, after⟩)
  | .buffered pending =>
    let (rest, absorbed) := pending.deleteBefore before
    if rest.hasComposing then (.buffered rest, none)
    else (.buffered rest.finish, some ⟨before - absorbed, after⟩)

def deleteSurrounding (session : Session) (encoder : LogicalEncoder) (before after : Nat) :
    Session × Response :=
  match session.absorbDeletion before after with
  | (next, some deletion) => (next, ⟨true, deletion.sends encoder⟩)
  | (next, none) => (next, ⟨true, []⟩)

/-- An action; those for the enter key send a carriage return. -/
def act (session : Session) (action : EditorAction) : Session × Response :=
  if action.isEnter then (session, ⟨true, [.text "\r"]⟩) else (session, ⟨false, []⟩)

/-- A key. What it sends goes out behind the text that was not sent yet. -/
def key (session : Session) (encoder : LogicalEncoder) (event : KeyEvent)
    (character : Option Char) : Session × Response :=
  let response := keyResponse encoder event character
  if response.sends.isEmpty then (session, response)
  else
    match session with
    | .flag _ => (session, response)
    | .buffered pending =>
      if pending.isEmpty then (session, response)
      else
        let (rest, text) := pending.take
        (.buffered rest, ⟨response.handled,
          .text (String.ofList (normalizeChars text)) :: response.sends⟩)

/-- Takes a strategy over; a change forgets the text not sent yet. -/
def setStrategy (session : Session) (strategy : Strategy) : Session :=
  if session.strategy = strategy then session else .initial strategy

def reset (session : Session) : Session := .initial session.strategy

def step (encoder : LogicalEncoder) (session : Session) : Event → Session × Response
  | .compose text => session.compose text.toList
  | .commit text => session.commit text.toList
  | .finish => session.finish
  | .deleteSurrounding before after => session.deleteSurrounding encoder before after
  | .action action => session.act action
  | .key event character => session.key encoder event character
  | .setStrategy strategy => (session.setStrategy strategy, ⟨false, []⟩)
  | .reset => (session.reset, ⟨false, []⟩)

def run (encoder : LogicalEncoder) (session : Session) : List Event → Session × List Response
  | [] => (session, [])
  | event :: rest =>
    let (next, response) := session.step encoder event
    let (last, responses) := next.run encoder rest
    (last, response :: responses)

end Session

end TtyFrame.Composition

import TtyFrame.Pane
import TtyFrame.Screen.Engine

/-! Input of a pane on its way to the connector. Whatever an event is to send is written, each
piece by itself and in order, and the view goes back to the live screen before that. What
the connector answers to a write stops nothing. -/

set_option autoImplicit false

namespace TtyFrame

/-- Writes pieces one after another, whatever comes of each. -/
def Connector.writeAll {κ : Type} [Connector κ] (connector : κ) (pieces : List (List UInt8)) : κ :=
  pieces.foldl (fun connector bytes => (Connector.write connector bytes).1) connector

section Connector

variable {κ : Type} [Connector κ]

private theorem Connector.writeAll_append (connector : κ) (first second : List (List UInt8)) :
    writeAll connector (first ++ second) = writeAll (writeAll connector first) second :=
  List.foldl_append ..

/-- An account that is kept of all writes has them all, each once and in order. -/
theorem Connector.writeAll_account {account : κ → List (List UInt8)}
    (kept : ∀ connector bytes, account (write connector bytes).1 = account connector ++ [bytes])
    (connector : κ) (pieces : List (List UInt8)) :
    account (writeAll connector pieces) = account connector ++ pieces := by
  induction pieces generalizing connector with
  | nil => exact (List.append_nil _).symm
  | cons bytes rest ih =>
    have written : account (writeAll (write connector bytes).1 rest) =
        account (write connector bytes).1 ++ rest := ih _
    rw [kept, List.append_assoc] at written
    exact written

end Connector

namespace Pane

/-- The bytes that sends come to, without the empty ones. -/
def wire (sends : List Composition.Outgoing) : List (List UInt8) :=
  (sends.map outgoingBytes).filter (!·.isEmpty)

private theorem wire_append (first second : List Composition.Outgoing) :
    wire (first ++ second) = wire first ++ wire second := by
  rw [wire, List.map_append, List.filter_append]
  rfl

end Pane

namespace ViewState

variable {α : Type} [Scroll.Distance α]

/-- Takes over what an event makes of the input. If there is anything to send, the view goes
back to the live screen. -/
def takeInput (view : ViewState α) (input : Composition.Session)
    (sends : List Composition.Outgoing) : ViewState α :=
  if sends.isEmpty then { view with input } else ViewState.scrollToBottom { view with input }

section TakeInput

variable (view : ViewState α) (input : Composition.Session)
  {sends : List Composition.Outgoing}

theorem takeInput_input : (view.takeInput input sends).input = input := by
  unfold takeInput
  split
  · rfl
  · rfl

end TakeInput

end ViewState

namespace Session

variable {ε κ τ : Type} [Engine ε] [Connector κ]

theorem send_eq (session : Session ε κ τ) (bytes : List UInt8) :
    (session.send bytes).1 =
      { session with
        connector := session.connector.map
          (Connector.writeAll · ([bytes].filter (!·.isEmpty))) } := by
  obtain ⟨size, screen, style, connector, worker, exited, listeners⟩ := session
  cases bytes with
  | nil =>
    cases connector with
    | none => rfl
    | some connector => rfl
  | cons byte rest =>
    cases connector with
    | none => rfl
    | some connector => rfl

theorem send_detached {session : Session ε κ τ} (detached : session.connector = none)
    (bytes : List UInt8) : session.send bytes = (session, .ok ()) := by
  unfold send
  rw [detached]
  split
  · rfl
  · rfl

end Session

namespace Pane

variable {ε κ α τ : Type} [Engine ε] [Connector κ]

/-- A pane whose connector has been written to. -/
def written (pane : Pane ε κ α τ) (pieces : List (List UInt8)) : Pane ε κ α τ :=
  { pane with
    session :=
      { pane.session with connector := pane.session.connector.map (Connector.writeAll · pieces) } }

private theorem written_nil (pane : Pane ε κ α τ) : pane.written [] = pane := by
  obtain ⟨⟨size, screen, style, connector, worker, exited, listeners⟩, context, palette, config⟩ :=
    pane
  cases connector with
  | none => rfl
  | some connector => rfl

private theorem written_written (pane : Pane ε κ α τ) (first second : List (List UInt8)) :
    (pane.written first).written second = pane.written (first ++ second) := by
  obtain ⟨⟨size, screen, style, connector, worker, exited, listeners⟩, context, palette, config⟩ :=
    pane
  cases connector with
  | none => rfl
  | some connector => simp [written, Connector.writeAll_append]

private theorem foldl_write_eq (pane : Pane ε κ α τ) (sends : List Composition.Outgoing) :
    sends.foldl (fun pane outgoing => pane.write (outgoingBytes outgoing)) pane =
      pane.written (wire sends) := by
  induction sends generalizing pane with
  | nil => exact pane.written_nil.symm
  | cons outgoing rest ih =>
    have first : pane.write (outgoingBytes outgoing) = pane.written (wire [outgoing]) := by
      rw [write, pane.session.send_eq]
      rfl
    rw [List.foldl_cons, ih, first, written_written, ← wire_append]
    rfl

variable [Scroll.Distance α]

/-- All that an event changes: the connector is written to, and the view takes the input. -/
theorem handle_eq (pane : Pane ε κ α τ) (event : Composition.Event) :
    let encoder := Xterm.encoder pane.session.applicationCursor
    let answer := pane.view.input.step encoder event
    pane.handle event =
      ((pane.updateView (·.takeInput answer.1 answer.2.sends)).written (wire answer.2.sends),
        answer.2.handled) := by
  intro encoder answer
  have dispatched (start : Pane ε κ α τ) (sends : List Composition.Outgoing) :
      start.dispatch sends =
        (if sends.isEmpty then start else start.scrollToBottom).written (wire sends) := by
    unfold dispatch
    cases sends with
    | nil => exact start.written_nil.symm
    | cons outgoing rest => exact foldl_write_eq _ _
  have handled : pane.handle event =
      ((pane.updateView fun view => { view with input := answer.1 }).dispatch answer.2.sends,
        answer.2.handled) := rfl
  rw [handled, dispatched]
  cases answer.2.sends with
  | nil => rfl
  | cons outgoing rest => rfl

/-- Takes events one after another and gives the answers. -/
def handleAll (pane : Pane ε κ α τ) : List Composition.Event → Pane ε κ α τ × List Bool
  | [] => (pane, [])
  | event :: rest =>
    let (next, handled) := pane.handle event
    let (last, answers) := next.handleAll rest
    (last, handled :: answers)

/-- A connector that keeps an account of its writes and fails at each of them. -/
structure Jammed where
  account : List (List UInt8) := []
deriving DecidableEq

instance : Connector Jammed where
  takeReader jammed := (jammed, .ok ())
  write jammed bytes := (⟨jammed.account ++ [bytes]⟩, .error ⟨"nothing gets through"⟩)
  resize jammed _ := (jammed, .ok ())
  close jammed := jammed

example :
    let pane : Pane Screen.State Jammed Int Unit := ((ofConfig {}).start {}).1
    let done := pane.handleAll [.compose "n", .commit "a\n", .commit "", .action .send]
    (done.1.session.connector, done.2) =
      (some ⟨[[0x61, 0x0D], [0x0D]]⟩, [true, true, true, true]) := by
  decide +kernel

end Pane

end TtyFrame

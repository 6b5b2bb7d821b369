import TtyFrame.Proofs.Engine
import TtyFrame.Proofs.Session.Cases

/-! What is asked of a session by whoever holds it. The size is recorded in the session and
kept once more by the engine. Whatever is asked and whatever the worker reads, the two stay
equal and never get smaller than the smallest grid. The default style is changed by the one
request that is about it. -/

set_option autoImplicit false

namespace TtyFrame

namespace Progress

variable {ε : Type} [Engine ε] {progress : Progress ε} {limit : Nat} {size : Size}

theorem apply_reached (reached : Engine.Reached limit size progress.screen) (batch : List UInt8) :
    Engine.Reached limit size (progress.apply batch).screen :=
  reached.takeBytes progress.worker.stream batch

theorem finish_reached (reached : Engine.Reached limit size progress.screen)
    (late : List (List UInt8)) : Engine.Reached limit size (progress.finish late).screen := by
  unfold finish
  split
  · exact reached
  · exact apply_reached reached late.flatten

theorem round_reached (reached : Engine.Reached limit size progress.screen) (found : Round) :
    Engine.Reached limit size (progress.round found).screen := by
  have received : Engine.Reached limit size (progress.receive found.received).screen := by
    cases found.received with
    | pieces pieces => exact apply_reached reached pieces.flatten
    | timeout => exact reached
    | ended => exact reached
  unfold round
  split
  · exact reached
  · extract_lets first told
    have telling : Engine.Reached limit size told.screen := by
      unfold told
      split
      · exact received
      · exact received
    split
    · exact finish_reached telling found.late
    · exact telling

end Progress

namespace Session

/-- What somebody who holds a session may ask of it. -/
inductive Request (κ τ : Type) where
  | start (connector : κ)
  | stop
  | resize (size : Size)
  | send (bytes : List UInt8)
  | listen (listener : τ)
  | leave (id : ListenerId)
  | restyle (style : DefaultStyle)

variable {ε κ τ : Type} [Engine ε]

def serve [Connector κ] (session : Session ε κ τ) : Request κ τ → Session ε κ τ
  | .start connector => (session.start connector).1
  | .stop => session.stop.1
  | .resize size => (session.resize size).1
  | .send bytes => (session.send bytes).1
  | .listen listener => (session.addListener listener).1
  | .leave id => (session.removeListener id).1
  | .restyle style => { session with style }

/-- The engine has come to the screen of a session, and gave it the recorded size last. -/
def Fits (limit : Nat) (session : Session ε κ τ) : Prop :=
  Engine.Reached limit session.size session.screen

theorem ofConfig_fits (config : Config) :
    (ofConfig config : Session ε κ τ).Fits config.effectiveScrollback :=
  .blank ⟨config.columns, config.rows⟩

namespace Fits

variable {limit : Nat} {session : Session ε κ τ}

theorem of_eq (fits : session.Fits limit) {next : Session ε κ τ} (size : next.size = session.size)
    (screen : next.screen = session.screen) : next.Fits limit := by
  rw [Fits, size, screen]
  exact fits

theorem wide (fits : session.Fits limit) : Config.minColumns ≤ session.size.columns :=
  Engine.Reached.wide fits

theorem high (fits : session.Fits limit) : Config.minRows ≤ session.size.rows :=
  Engine.Reached.high fits

section Laws

variable [Engine.Lawful ε]

theorem columns (fits : session.Fits limit) : session.view.width = session.size.columns :=
  Engine.Lawful.width fits

theorem lines (fits : session.Fits limit) : session.view.height = session.size.rows :=
  Engine.Lawful.height fits

theorem history_le (fits : session.Fits limit) : session.view.history ≤ limit :=
  Engine.Lawful.history_le fits

theorem history_alternate (fits : session.Fits limit) (on : session.view.alternate = true) :
    session.view.history = 0 :=
  Engine.Lawful.history_alternate fits on

end Laws

variable [Connector κ]

theorem start (fits : session.Fits limit) (connector : κ) :
    (session.start connector).1.Fits limit := by
  obtain ⟨outcome, done⟩ | ⟨opened, attached, -, -, -, done⟩ := session.start_cases connector
  · rw [done]
    exact fits
  · rw [done]
    exact fits.of_eq rfl rfl

theorem resize (fits : session.Fits limit) (size : Size) : (session.resize size).1.Fits limit := by
  obtain ⟨-, done⟩ | ⟨-, -, done⟩ | ⟨-, connector, -, done⟩ := session.resize_cases size
  · rw [done]
    exact fits
  · rw [done]
    exact Engine.Reached.resize fits size
  · rw [done]
    exact Engine.Reached.resize fits size

theorem send (fits : session.Fits limit) (bytes : List UInt8) :
    (session.send bytes).1.Fits limit := by
  obtain ⟨connector, sent⟩ := session.send_cases bytes
  rw [sent]
  exact fits.of_eq rfl rfl

theorem work (fits : session.Fits limit) (found : Round) : (session.work found).1.Fits limit := by
  obtain absent | ⟨worker, running⟩ := Option.eq_none_or_eq_some session.worker
  · rw [Session.work, absent]
    exact fits
  · obtain ⟨exited, connector, worked⟩ := work_cases running found
    rw [worked]
    let progress : Progress ε := { worker, screen := session.screen }
    have reached : Engine.Reached limit session.size progress.screen := fits
    exact Progress.round_reached reached found

theorem serve (fits : session.Fits limit) (request : Request κ τ) :
    (session.serve request).Fits limit := by
  cases request with
  | start connector => exact fits.start connector
  | stop => exact fits.of_eq rfl rfl
  | resize size => exact fits.resize size
  | send bytes => exact fits.send bytes
  | listen listener => exact fits.of_eq rfl rfl
  | leave id => exact fits.of_eq rfl rfl
  | restyle style => exact fits.of_eq rfl rfl

end Fits

section Style

variable [Connector κ] (session : Session ε κ τ)

theorem work_style (found : Round) : (session.work found).1.style = session.style := by
  obtain absent | ⟨worker, running⟩ := Option.eq_none_or_eq_some session.worker
  · rw [work, absent]
  · obtain ⟨exited, connector, worked⟩ := work_cases running found
    rw [worked]

theorem start_style (connector : κ) : (session.start connector).1.style = session.style := by
  obtain ⟨outcome, done⟩ | ⟨opened, attached, -, -, -, done⟩ := session.start_cases connector
  · rw [done]
  · rw [done]

theorem resize_style (size : Size) : (session.resize size).1.style = session.style := by
  obtain ⟨-, done⟩ | ⟨-, -, done⟩ | ⟨-, connector, -, done⟩ := session.resize_cases size
  · rw [done]
  · rw [done]
  · rw [done]

theorem send_style (bytes : List UInt8) : (session.send bytes).1.style = session.style := by
  obtain ⟨connector, sent⟩ := session.send_cases bytes
  rw [sent]

/-- Of all that can be asked for, only a style brings another one. -/
theorem serve_style (request : Request κ τ) :
    (session.serve request).style =
      match request with
      | .restyle style => style
      | _ => session.style := by
  cases request with
  | start connector => exact session.start_style connector
  | stop => rfl
  | resize size => exact session.resize_style size
  | send bytes => exact session.send_style bytes
  | listen listener => rfl
  | leave id => rfl
  | restyle style => rfl

end Style

end Session

end TtyFrame

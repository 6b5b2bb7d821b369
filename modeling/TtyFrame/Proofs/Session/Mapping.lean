import TtyFrame.Proofs.Pane.Input
import TtyFrame.Proofs.Session.Requests

/-! Sessions over other connectors. A map of connectors that every call goes along with
carries a whole session over, so that what a connector keeps on the side, such as an account
of its calls, makes no difference to the session. -/

set_option autoImplicit false

namespace TtyFrame

/-- A map of connectors that every call goes along with. -/
structure Connector.Hom {κ ι : Type} [Connector κ] [Connector ι] (f : κ → ι) : Prop where
  takeReader : ∀ connector, Connector.takeReader (f connector) =
    (f (Connector.takeReader connector).1, (Connector.takeReader connector).2)
  write : ∀ connector bytes, Connector.write (f connector) bytes =
    (f (Connector.write connector bytes).1, (Connector.write connector bytes).2)
  resize : ∀ connector size, Connector.resize (f connector) size =
    (f (Connector.resize connector size).1, (Connector.resize connector size).2)
  close : ∀ connector, Connector.close (f connector) = f (Connector.close connector)

namespace Connector.Hom

variable {κ ι : Type} [Connector κ] [Connector ι] {f : κ → ι} {connector after : κ}
  {outcome : Except Fault Unit}

theorem takeReader_eq (hom : Connector.Hom f)
    (taken : Connector.takeReader connector = (after, outcome)) :
    Connector.takeReader (f connector) = (f after, outcome) := by
  rw [hom.takeReader, taken]

theorem resize_eq (hom : Connector.Hom f) {size : Size}
    (resized : Connector.resize connector size = (after, outcome)) :
    Connector.resize (f connector) size = (f after, outcome) := by
  rw [hom.resize, resized]

theorem writeAll (hom : Connector.Hom f) (connector : κ) (pieces : List (List UInt8)) :
    Connector.writeAll (f connector) pieces = f (Connector.writeAll connector pieces) :=
  List.foldl_hom f fun connector bytes => congrArg Prod.fst (hom.write connector bytes)

end Connector.Hom

namespace Session

variable {ε κ ι τ : Type} [Engine ε]

/-- The session with another connector in the place of its own. -/
def mapConnector (f : κ → ι) (session : Session ε κ τ) : Session ε ι τ where
  size := session.size
  screen := session.screen
  style := session.style
  connector := session.connector.map f
  worker := session.worker
  exited := session.exited
  listeners := session.listeners

def Request.mapConnector (f : κ → ι) : Request κ τ → Request ι τ
  | .start connector => .start (f connector)
  | .stop => .stop
  | .resize size => .resize size
  | .send bytes => .send bytes
  | .listen listener => .listen listener
  | .leave id => .leave id
  | .restyle style => .restyle style

variable [Connector κ] [Connector ι] {f : κ → ι} (session : Session ε κ τ)

theorem mapConnector_start (hom : Connector.Hom f) (connector : κ) :
    (session.mapConnector f).start (f connector) =
      ((session.start connector).1.mapConnector f, (session.start connector).2) := by
  have starts := session.start_starts connector
  generalize session.start connector = result at starts ⊢
  refine Starts.start_eq ?_
  cases starts with
  | ignored running => exact .ignored running
  | withheld idle reader => exact .withheld idle (hom.takeReader_eq reader)
  | refused idle reader size =>
      exact .refused idle (hom.takeReader_eq reader) (hom.resize_eq size)
  | attached idle reader size =>
      exact .attached idle (hom.takeReader_eq reader) (hom.resize_eq size)

theorem mapConnector_stop (hom : Connector.Hom f) :
    (session.mapConnector f).stop = (session.stop.1.mapConnector f, session.stop.2.map f) := by
  have closed : (session.connector.map f).map Connector.close =
      (session.connector.map Connector.close).map f := by
    simp only [Option.map_map, Function.comp_def, hom.close]
  exact Prod.ext rfl closed

theorem mapConnector_resize (hom : Connector.Hom f) (size : Size) :
    (session.mapConnector f).resize size =
      ((session.resize size).1.mapConnector f, (session.resize size).2) := by
  obtain ⟨own, screen, style, connector, worker, exited, listeners⟩ := session
  by_cases same : own = size.clamped
  · simp [resize, same, mapConnector]
  · cases connector with
    | none => simp [resize, same, mapConnector]
    | some connector => simp [resize, same, mapConnector, hom.resize]

theorem mapConnector_send (hom : Connector.Hom f) (bytes : List UInt8) :
    (session.mapConnector f).send bytes =
      ((session.send bytes).1.mapConnector f, (session.send bytes).2) := by
  obtain ⟨own, screen, style, connector, worker, exited, listeners⟩ := session
  by_cases nothing : bytes = []
  · simp [send, nothing]
  · cases connector with
    | none => simp [send, nothing, mapConnector]
    | some connector => simp [send, nothing, mapConnector, hom.write]

theorem mapConnector_serve (hom : Connector.Hom f) (request : Request κ τ) :
    (session.mapConnector f).serve (request.mapConnector f) =
      (session.serve request).mapConnector f := by
  cases request with
  | start connector => exact congrArg Prod.fst (session.mapConnector_start hom connector)
  | stop => exact congrArg Prod.fst (session.mapConnector_stop hom)
  | resize size => exact congrArg Prod.fst (session.mapConnector_resize hom size)
  | send bytes => exact congrArg Prod.fst (session.mapConnector_send hom bytes)
  | listen listener => rfl
  | leave id => rfl
  | restyle style => rfl

/-- What the connector is written in answer to a round of output, each piece by itself. -/
def answers (session : Session ε κ τ) (found : Round) : List (List UInt8) :=
  match session.worker with
  | none => []
  | some worker =>
    (Progress.round { worker, screen := session.screen } found).replies.map fun reply =>
      Text.bytes (replyText session.size reply)

variable {session}

theorem work_running {worker : Worker ε} (running : session.worker = some worker) (found : Round) :
    (session.work found).1 =
      { session with
        worker := some (Progress.round { worker, screen := session.screen } found).worker
        screen := (Progress.round { worker, screen := session.screen } found).screen
        exited := session.exited || found.exited || found.received = Receipt.ended
        connector := session.connector.map (Connector.writeAll · (session.answers found)) } := by
  simp only [work, answers, running, reply_eq, Connector.writeAll, List.foldl_map]

theorem work_absent (absent : session.worker = none) (found : Round) :
    (session.work found).1 = session := by
  rw [work, absent]

theorem mapConnector_work (hom : Connector.Hom f) (found : Round) :
    ((session.mapConnector f).work found).1 = (session.work found).1.mapConnector f := by
  cases running : session.worker with
  | none =>
      have absent : (session.mapConnector f).worker = none := running
      rw [work_absent absent, work_absent running]
  | some worker =>
      have mapped : (session.mapConnector f).worker = some worker := running
      have same : (session.mapConnector f).answers found = session.answers found := rfl
      have written (connector : κ) :
          Connector.writeAll (f connector) (session.answers found) =
            f (Connector.writeAll connector (session.answers found)) :=
        hom.writeAll connector _
      rw [work_running mapped, work_running running, same]
      simp only [mapConnector, Option.map_map, Function.comp_def, written]

end Session

end TtyFrame

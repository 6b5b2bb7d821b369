import TtyFrame.Session

/-! What a call can make of a session. Each lemma lists all outcomes of one call, so that
nothing else has to look into the call. -/

set_option autoImplicit false

namespace TtyFrame.Session

variable {ε κ τ : Type} [Engine ε] [Connector κ]

/-- All that can come of a start. Only a connector that has given its reader away and taken
the size of the session is attached; in every other case the session is as it was. -/
inductive Starts (session : Session ε κ τ) (connector : κ) :
    Session ε κ τ × Except Error Unit → Prop where
  | ignored (running : session.worker ≠ none) : Starts session connector (session, .ok ())
  | withheld {opened : κ} {cause : Fault} (idle : session.worker = none)
      (reader : Connector.takeReader connector = (opened, .error cause)) :
      Starts session connector (session, .error (.reader cause))
  | refused {opened sized : κ} {cause : Fault} (idle : session.worker = none)
      (reader : Connector.takeReader connector = (opened, .ok ()))
      (size : Connector.resize opened session.size = (sized, .error cause)) :
      Starts session connector (session, .error (.size cause))
  | attached {opened sized : κ} (idle : session.worker = none)
      (reader : Connector.takeReader connector = (opened, .ok ()))
      (size : Connector.resize opened session.size = (sized, .ok ())) :
      Starts session connector
        ({ session with connector := some sized, worker := some {}, exited := false }, .ok ())

theorem start_starts (session : Session ε κ τ) (connector : κ) :
    Starts session connector (session.start connector) := by
  unfold start
  split
  · next running => exact .ignored (Option.isSome_iff_ne_none.mp running)
  · next idle =>
      have free : session.worker = none := by simpa using idle
      cases reader : Connector.takeReader connector with
      | mk opened given =>
          cases given with
          | error cause => exact .withheld free reader
          | ok =>
              cases size : Connector.resize opened session.size with
              | mk sized outcome =>
                  cases outcome with
                  | error cause =>
                      simp only [size]
                      exact .refused free reader size
                  | ok =>
                      simp only [size]
                      exact .attached free reader size

theorem Starts.start_eq {session : Session ε κ τ} {connector : κ}
    {result : Session ε κ τ × Except Error Unit} (starts : Starts session connector result) :
    session.start connector = result := by
  cases starts with
  | ignored running => simp [start, Option.isSome_iff_ne_none.mpr running]
  | withheld idle reader => simp [start, idle, reader]
  | refused idle reader size => simp [start, idle, reader, size]
  | attached idle reader size => simp [start, idle, reader, size]

/-- A start leaves everything as it is, or attaches a connector that has taken the size. -/
theorem start_cases (session : Session ε κ τ) (connector : κ) :
    (∃ outcome, session.start connector = (session, outcome)) ∨
      ∃ opened attached, session.worker = none ∧
        Connector.takeReader connector = (opened, .ok ()) ∧
        Connector.resize opened session.size = (attached, .ok ()) ∧
        session.start connector =
          ({ session with connector := some attached, worker := some {}, exited := false },
            .ok ()) := by
  have starts := session.start_starts connector
  generalize session.start connector = result at starts ⊢
  cases starts with
  | ignored => exact .inl ⟨_, rfl⟩
  | withheld => exact .inl ⟨_, rfl⟩
  | refused => exact .inl ⟨_, rfl⟩
  | attached idle reader size => exact .inr ⟨_, _, idle, reader, size, rfl⟩

/-- An idle session that answers a start with success has attached the connector. -/
theorem start_ok {session : Session ε κ τ} {connector : κ} (idle : session.worker = none)
    (accepted : (session.start connector).2 = .ok ()) :
    ∃ attached, (session.start connector).1 =
      { session with connector := some attached, worker := some {}, exited := false } := by
  have starts := session.start_starts connector
  generalize session.start connector = result at starts accepted ⊢
  cases starts with
  | ignored running => exact absurd idle running
  | withheld => cases accepted
  | refused => cases accepted
  | attached => exact ⟨_, rfl⟩

/-- A resize finds its size recorded, or nobody attached, or it is up to the connector. -/
theorem resize_cases (session : Session ε κ τ) (size : Size) :
    (session.size = size.clamped ∧ session.resize size = (session, .ok ())) ∨
      (session.size ≠ size.clamped ∧ session.connector = none ∧
        session.resize size =
          ({ session with
              size := size.clamped
              screen := Engine.resize session.screen size.clamped.columns size.clamped.rows },
            .ok ())) ∨
      session.size ≠ size.clamped ∧ ∃ connector, session.connector = some connector ∧
        session.resize size =
          ({ session with
              size := size.clamped
              screen := Engine.resize session.screen size.clamped.columns size.clamped.rows
              connector := some (Connector.resize connector size.clamped).1 },
            (Connector.resize connector size.clamped).2.mapError .resize) := by
  by_cases same : session.size = size.clamped
  · exact .inl ⟨same, by simp [resize, same]⟩
  · cases attached : session.connector with
    | none => exact .inr (.inl ⟨same, rfl, by simp [resize, same, attached]⟩)
    | some connector => exact .inr (.inr ⟨same, connector, rfl, by simp [resize, same, attached]⟩)

theorem send_cases (session : Session ε κ τ) (bytes : List UInt8) :
    ∃ connector, (session.send bytes).1 = { session with connector } := by
  unfold send
  split
  · exact ⟨_, rfl⟩
  · cases session.connector with
    | none => exact ⟨_, rfl⟩
    | some connector => exact ⟨_, rfl⟩

/-- Only the connector hears of replies, one after another. -/
theorem reply_eq (session : Session ε κ τ) (replies : List Reply) :
    session.reply replies =
      { session with
        connector := session.connector.map fun connector =>
          replies.foldl (fun connector reply =>
            (Connector.write connector (Text.bytes (replyText session.size reply))).1) connector } := by
  obtain ⟨size, screen, style, connector, worker, exited, listeners⟩ := session
  cases connector with
  | none => rfl
  | some connector => rfl

theorem reply_cases (session : Session ε κ τ) (replies : List Reply) :
    ∃ connector, session.reply replies = { session with connector } :=
  ⟨_, session.reply_eq replies⟩

omit [Connector κ] in
theorem tell_singleton (session : Session ε κ τ) (change : BufferChange) :
    session.tell [change] = session.listeners.registered.map fun listener => (listener, change) := by
  simp [tell, Listeners.notify, ← List.flatMap_def, ← List.map_eq_flatMap]

theorem round_done (progress : Progress ε) (done : progress.worker.done = true) (found : Round) :
    progress.round found = progress := by
  rw [Progress.round, if_pos done]

/-- A piece that comes while an announcement is due is applied and announced at once. -/
theorem round_piece (progress : Progress ε) (reading : progress.worker.done = false)
    (piece : List UInt8) :
    ∃ next, progress.round { received := .pieces [piece] } = next ∧
      next.worker.pending = none ∧
      next.screen = (Engine.takeBytes progress.worker.stream progress.screen piece).2.1 ∧
      next.announced = progress.announced ++
        [.ofView next.worker.generation (Engine.view next.screen)] := by
  refine ⟨(progress.apply piece).announce, ?_, rfl, rfl, rfl⟩
  simp [Progress.round, reading, Progress.receive]

theorem round_ended (progress : Progress ε) (nothing : progress.worker.pending = none) :
    progress.round { received := .ended } =
      { progress with worker := { progress.worker with done := true } } := by
  obtain ⟨⟨stream, generation, pending, done⟩, screen, batches, replies, announced⟩ := progress
  obtain rfl : pending = none := nothing
  cases done <;> simp [Progress.round, Progress.receive, Progress.finish, Progress.announce]

/-- The screen, the worker and what is told after a round; the replies are with the
connector. -/
theorem work_cases {session : Session ε κ τ} {worker : Worker ε}
    (running : session.worker = some worker) (found : Round) :
    ∃ exited connector, session.work found =
      ({ session with
          worker := some (Progress.round { worker, screen := session.screen } found).worker
          screen := (Progress.round { worker, screen := session.screen } found).screen
          exited, connector },
        session.tell (Progress.round { worker, screen := session.screen } found).announced) := by
  simp only [work, running]
  obtain ⟨connector, replied⟩ := reply_cases
    { session with
      worker := some (Progress.round { worker, screen := session.screen } found).worker
      screen := (Progress.round { worker, screen := session.screen } found).screen
      exited := session.exited || found.exited || found.received = Receipt.ended }
    (Progress.round { worker, screen := session.screen } found).replies
  exact ⟨_, connector, Prod.ext replied rfl⟩

theorem work_idle {session : Session ε κ τ} (idle : session.isReading = false) (found : Round) :
    ∃ exited connector, session.work found = ({ session with exited, connector }, []) := by
  obtain absent | ⟨worker, running⟩ := Option.eq_none_or_eq_some session.worker
  · have still : session.work found = (session, []) := by
      unfold work
      rw [absent]
    exact ⟨session.exited, session.connector, still⟩
  · have done : worker.done = true := by simpa [isReading, running] using idle
    obtain ⟨exited, connector, worked⟩ := work_cases running found
    rw [round_done { worker, screen := session.screen } done, ← running] at worked
    exact ⟨exited, connector, worked⟩

/-- Output that nobody reads changes nothing of what is shown. A piece that is read goes to
the screen, and every listener is told at once what the screen is like now. -/
theorem output_cases (session : Session ε κ τ) (piece : List UInt8) :
    (session.isReading = false ∧ ∃ exited connector,
        session.output piece = ({ session with exited, connector }, [])) ∨
      (session.isReading = true ∧ ∃ worker screen exited connector,
        worker.pending = none ∧
        (∃ stream, screen = (Engine.takeBytes stream session.screen piece).2.1) ∧
        session.output piece =
          ({ session with worker := some worker, screen, exited, connector },
            session.listeners.registered.map fun listener =>
              (listener, .ofView worker.generation (Engine.view screen)))) := by
  cases reading : session.isReading with
  | false => exact .inl ⟨rfl, work_idle reading _⟩
  | true =>
      obtain ⟨worker, running, fresh⟩ : ∃ worker, session.worker = some worker ∧
          worker.done = false := by
        cases running : session.worker with
        | none => simp [isReading, running] at reading
        | some worker => exact ⟨worker, rfl, by simpa [isReading, running] using reading⟩
      obtain ⟨exited, connector, worked⟩ := work_cases running { received := .pieces [piece] }
      obtain ⟨next, taken, nothing, written, announced⟩ :=
        round_piece { worker, screen := session.screen } fresh piece
      rw [taken, announced, List.nil_append, tell_singleton] at worked
      exact .inr ⟨rfl, next.worker, next.screen, exited, connector, nothing, ⟨_, written⟩, worked⟩

/-- No change of the screen is waiting to be announced. -/
def Told (session : Session ε κ τ) : Prop :=
  ∀ worker, session.worker = some worker → worker.pending = none

theorem endOutput_cases {session : Session ε κ τ} (told : session.Told) :
    ∃ worker exited connector, (∀ last, worker = some last → last.pending = none) ∧
      session.endOutput = ({ session with worker, exited, connector }, []) := by
  obtain absent | ⟨worker, running⟩ := Option.eq_none_or_eq_some session.worker
  · have idle : session.isReading = false := by simp [isReading, absent]
    obtain ⟨exited, connector, worked⟩ := work_idle idle { received := .ended }
    exact ⟨session.worker, exited, connector, told, worked⟩
  · obtain ⟨exited, connector, worked⟩ := work_cases running { received := .ended }
    rw [round_ended { worker, screen := session.screen } (told worker running)] at worked
    refine ⟨_, exited, connector, fun last final => ?_, worked⟩
    obtain rfl := Option.some.inj final
    exact told worker running

end TtyFrame.Session

import TtyFrame.Connector.Echo
import TtyFrame.Proofs.Session.Mapping

/-! What every connector that a session has had was asked for. A session has a connector
exactly while it has a worker, so a connector hears of all that is sent between the start
that attached it and the next stop, and of nothing else, and the stop closes it. -/

set_option autoImplicit false

namespace TtyFrame

/-!
## Connectors with an account
-/

inductive Asked where
  | reader
  | size (size : Size)
  | bytes (bytes : List UInt8)
  | close
deriving DecidableEq, Repr

/-- A connector with the number of the start that brought it, and with all that it was asked
for, oldest first. -/
structure Noted (κ : Type) where
  number : Nat
  connector : κ
  asked : List Asked := []

namespace Noted

variable {κ : Type}

def new (number : Nat) (connector : κ) : Noted κ := { number, connector }

def account (noted : Noted κ) : Nat × List Asked := (noted.number, noted.asked)

def note (noted : Noted κ) (connector : κ) (asked : Asked) : Noted κ :=
  { noted with connector, asked := noted.asked ++ [asked] }

variable [Connector κ]

instance : Connector (Noted κ) where
  takeReader noted :=
    let (connector, outcome) := Connector.takeReader noted.connector
    (noted.note connector .reader, outcome)
  write noted bytes :=
    let (connector, outcome) := Connector.write noted.connector bytes
    (noted.note connector (.bytes bytes), outcome)
  resize noted size :=
    let (connector, outcome) := Connector.resize noted.connector size
    (noted.note connector (.size size), outcome)
  close noted := noted.note (Connector.close noted.connector) .close

theorem connector_hom : Connector.Hom (Noted.connector : Noted κ → κ) where
  takeReader _ := rfl
  write _ _ := rfl
  resize _ _ := rfl
  close _ := rfl

theorem writeAll_account (noted : Noted κ) (pieces : List (List UInt8)) :
    (Connector.writeAll noted pieces).account =
      (noted.number, noted.asked ++ pieces.map .bytes) := by
  induction pieces generalizing noted with
  | nil => exact congrArg (noted.number, ·) (List.append_nil _).symm
  | cons bytes rest ih =>
      refine (ih (Connector.write noted bytes).1).trans (congrArg (noted.number, ·) ?_)
      exact List.append_assoc ..

end Noted

namespace Session

/-!
## Moves of a session
-/

/-- A request, or a round of the worker between two of them. -/
inductive Move (κ τ : Type) where
  | ask (request : Request κ τ)
  | work (found : Round)

variable {ε κ τ : Type} [Engine ε]

/-- A session has a connector exactly while it has a worker. -/
def Paired (session : Session ε κ τ) : Prop := session.connector.isSome = session.worker.isSome

/-- The move is neither a start nor a stop. -/
def Move.passes : Move κ τ → Bool
  | .ask (.start _) | .ask .stop => false
  | .ask _ | .work _ => true

/-- What a move asks of a connector that is attached and stays so. -/
def passesOn (session : Session ε κ τ) : Move κ τ → List Asked
  | .ask (.send bytes) => if bytes.isEmpty then [] else [.bytes bytes]
  | .ask (.resize size) => if session.size = size.clamped then [] else [.size size.clamped]
  | .ask _ => []
  | .work found => (session.answers found).map .bytes

variable [Connector κ]

def move (session : Session ε κ τ) : Move κ τ → Session ε κ τ
  | .ask request => session.serve request
  | .work found => (session.work found).1

def play (session : Session ε κ τ) (moves : List (Move κ τ)) : Session ε κ τ :=
  moves.foldl move session

/-- What a connector that is attached is asked for in the course of moves. The first stop
closes it, and it hears of nothing that comes after. -/
def hears (session : Session ε κ τ) : List (Move κ τ) → List Asked
  | [] => []
  | .ask .stop :: _ => [.close]
  | move :: rest => session.passesOn move ++ (session.move move).hears rest

/-- The accounts of the connectors that are attached in the course of moves, with the numbers
of the starts, which are counted from a number on. -/
def accounts (session : Session ε κ τ) (number : Nat) : List (Move κ τ) → List (Nat × List Asked)
  | [] => []
  | .ask (.start connector) :: rest =>
    let (next, outcome) := session.start connector
    let later := next.accounts (number + 1) rest
    if session.worker.isNone && outcome.isOk then
      (number, .reader :: .size session.size :: next.hears rest) :: later
    else later
  | move :: rest => (session.move move).accounts number rest

namespace Paired

variable {session : Session ε κ τ}

omit [Connector κ] in
theorem ofConfig (config : Config) : (ofConfig config : Session ε κ τ).Paired := rfl

theorem start (paired : session.Paired) (connector : κ) : (session.start connector).1.Paired := by
  have starts := session.start_starts connector
  generalize session.start connector = result at starts ⊢
  cases starts with
  | ignored => exact paired
  | withheld => exact paired
  | refused => exact paired
  | attached => rfl

theorem serve (paired : session.Paired) (request : Request κ τ) :
    (session.serve request).Paired := by
  cases request with
  | start connector => exact paired.start connector
  | stop => rfl
  | resize size =>
      obtain ⟨-, done⟩ | ⟨-, -, done⟩ | ⟨-, connector, attached, done⟩ := session.resize_cases size
      · simp only [Session.serve, done]
        exact paired
      · simp only [Session.serve, done]
        exact paired
      · simp only [Session.serve, done]
        rw [Paired, attached] at paired
        exact paired
  | send bytes =>
      simp only [Session.serve, send_eq]
      exact Option.isSome_map.trans paired
  | listen listener => exact paired
  | leave id => exact paired
  | restyle style => exact paired

theorem move (paired : session.Paired) (move : Move κ τ) : (session.move move).Paired := by
  cases move with
  | ask request => exact paired.serve request
  | work found =>
      cases running : session.worker with
      | none =>
          simp only [Session.move, work_absent running]
          exact paired
      | some worker =>
          simp only [Session.move, work_running running]
          rw [Paired, running] at paired
          exact Option.isSome_map.trans paired

theorem play (paired : session.Paired) (moves : List (Move κ τ)) : (session.play moves).Paired := by
  induction moves generalizing session with
  | nil => exact paired
  | cons move rest ih => exact ih (paired.move move)

end Paired

/-!
## Ledgers
-/

/-- A session with accounts of all connectors that were attached to it. -/
structure Ledger (ε κ τ : Type) [Engine ε] where
  session : Session ε (Noted κ) τ
  /-- How many starts there have been. -/
  starts : Nat := 0
  /-- The connectors that the session has let go of, oldest first. -/
  parted : List (Noted κ) := []

namespace Ledger

def initial (config : Config) : Ledger ε κ τ := { session := .ofConfig config }

def bare (ledger : Ledger ε κ τ) : Session ε κ τ := ledger.session.mapConnector Noted.connector

/-- The connectors that have been attached. The one that is attached now is the last. -/
def known (ledger : Ledger ε κ τ) : List (Noted κ) :=
  ledger.parted ++ ledger.session.connector.toList

def move (ledger : Ledger ε κ τ) : Move κ τ → Ledger ε κ τ
  | .ask (.start connector) =>
    { ledger with
      session := (ledger.session.start (.new ledger.starts connector)).1
      starts := ledger.starts + 1 }
  | .ask .stop =>
    { ledger with
      session := ledger.session.stop.1
      parted := ledger.parted ++ ledger.session.stop.2.toList }
  | .ask request =>
    { ledger with session := ledger.session.serve (request.mapConnector (.new ledger.starts)) }
  | .work found => { ledger with session := (ledger.session.work found).1 }

def play (ledger : Ledger ε κ τ) (moves : List (Move κ τ)) : Ledger ε κ τ :=
  moves.foldl move ledger

theorem move_bare (ledger : Ledger ε κ τ) (move : Move κ τ) :
    (ledger.move move).bare = ledger.bare.move move := by
  have hom : Connector.Hom (Noted.connector : Noted κ → κ) := Noted.connector_hom
  cases move with
  | ask request =>
      -- A request keeps its meaning when the connector in it is given a number.
      have asked := ledger.session.mapConnector_serve hom (request.mapConnector (.new ledger.starts))
      cases request with
      | start connector => exact asked.symm
      | stop => rfl
      | resize size => exact asked.symm
      | send bytes => exact asked.symm
      | listen listener => rfl
      | leave id => rfl
      | restyle style => rfl
  | work found => exact (mapConnector_work hom found).symm

theorem play_bare (ledger : Ledger ε κ τ) (moves : List (Move κ τ)) :
    (ledger.play moves).bare = ledger.bare.play moves := by
  induction moves generalizing ledger with
  | nil => rfl
  | cons move rest ih =>
      refine (ih (ledger.move move)).trans ?_
      rw [move_bare]
      rfl

/-- All that can come of a move. -/
inductive Moved (ledger : Ledger ε κ τ) : Move κ τ → Ledger ε κ τ → Prop where
  | attached {connector : κ} {noted : Noted κ} {session : Session ε (Noted κ) τ}
      (idle : ledger.bare.worker = none) (accepted : (ledger.bare.start connector).2 = .ok ())
      (holds : session.connector = some noted)
      (account : noted.account = (ledger.starts, [.reader, .size ledger.bare.size])) :
      Moved ledger (.ask (.start connector)) { ledger with session, starts := ledger.starts + 1 }
  | unattached {connector : κ}
      (failed : ledger.bare.worker ≠ none ∨ (ledger.bare.start connector).2 ≠ .ok ()) :
      Moved ledger (.ask (.start connector)) { ledger with starts := ledger.starts + 1 }
  | stopped :
      Moved ledger (.ask .stop)
        { ledger with
          session := ledger.session.stop.1
          parted := ledger.parted ++ (ledger.session.connector.map Connector.close).toList }
  | passed {move : Move κ τ} {session : Session ε (Noted κ) τ} (passes : move.passes = true)
      (holds : session.connector.map Noted.account = ledger.session.connector.map fun noted =>
        (noted.number, noted.asked ++ ledger.bare.passesOn move)) :
      Moved ledger move { ledger with session }

private theorem start_moved (ledger : Ledger ε κ τ) (connector : κ) :
    ledger.Moved (.ask (.start connector)) (ledger.move (.ask (.start connector))) := by
  have same := ledger.session.mapConnector_start Noted.connector_hom (.new ledger.starts connector)
  have outcome : (ledger.bare.start connector).2 = _ := congrArg Prod.snd same
  have starts := ledger.session.start_starts (.new ledger.starts connector)
  simp only [move]
  generalize ledger.session.start (.new ledger.starts connector) = result at starts outcome ⊢
  cases starts with
  | ignored running => exact .unattached (.inl running)
  | withheld => exact .unattached (.inr (by rw [outcome]; exact nofun))
  | refused => exact .unattached (.inr (by rw [outcome]; exact nofun))
  | attached idle reader size =>
      refine .attached idle outcome rfl ?_
      obtain rfl := congrArg Prod.fst reader
      obtain rfl := congrArg Prod.fst size
      rfl

/-- Writing to the connector adds to its account only. -/
theorem written_account (session : Session ε (Noted κ) τ) (pieces : List (List UInt8)) :
    (session.connector.map (Connector.writeAll · pieces)).map Noted.account =
      session.connector.map fun noted => (noted.number, noted.asked ++ pieces.map .bytes) := by
  simp only [Option.map_map, Function.comp_def, Noted.writeAll_account]

omit [Connector κ] in
private theorem unasked_account (session : Session ε (Noted κ) τ) :
    session.connector.map Noted.account =
      session.connector.map fun noted => (noted.number, noted.asked ++ []) := by
  simp only [List.append_nil]
  rfl

private theorem resize_account (session : Session ε (Noted κ) τ) (size : Size) :
    (session.resize size).1.connector.map Noted.account =
      session.connector.map fun noted => (noted.number,
        noted.asked ++ if session.size = size.clamped then [] else [.size size.clamped]) := by
  obtain ⟨same, done⟩ | ⟨fresh, detached, done⟩ | ⟨fresh, noted, attached, done⟩ :=
    session.resize_cases size
  · rw [done, if_pos same]
    exact unasked_account session
  · simp only [done, detached, Option.map_none]
  · simp only [done, attached, if_neg fresh, Option.map_some]
    rfl

theorem move_moved (ledger : Ledger ε κ τ) (move : Move κ τ) :
    ledger.Moved move (ledger.move move) := by
  cases move with
  | ask request =>
      cases request with
      | start connector => exact ledger.start_moved connector
      | stop => exact .stopped
      | resize size => exact .passed rfl (resize_account ledger.session size)
      | send bytes =>
          refine .passed rfl ?_
          have written := written_account ledger.session ([bytes].filter (!·.isEmpty))
          simp only [Request.mapConnector, serve, send_eq]
          refine written.trans ?_
          cases bytes <;> rfl
      | listen listener => exact .passed rfl (unasked_account ledger.session)
      | leave id => exact .passed rfl (unasked_account ledger.session)
      | restyle style => exact .passed rfl (unasked_account ledger.session)
  | work found =>
      refine .passed rfl ?_
      cases running : ledger.session.worker with
      | none =>
          have silent : ledger.bare.passesOn (.work found) = [] := by
            have absent : ledger.bare.worker = none := running
            simp only [passesOn, answers, absent, List.map_nil]
          rw [work_absent running, silent]
          exact unasked_account ledger.session
      | some worker =>
          simp only [work_running running]
          exact written_account ledger.session (ledger.session.answers found)

/-!
## What is still to be asked
-/

/-- The accounts of all connectors that have been attached, if the one that is attached now
is asked for more. -/
def accountsWith (ledger : Ledger ε κ τ) (more : List Asked) : List (Nat × List Asked) :=
  ledger.parted.map Noted.account ++
    (ledger.session.connector.map fun noted => (noted.number, noted.asked ++ more)).toList

omit [Connector κ] in
theorem known_accounts (ledger : Ledger ε κ τ) :
    ledger.known.map Noted.account = ledger.accountsWith [] := by
  simp only [known, accountsWith, List.map_append, List.append_nil]
  cases ledger.session.connector <;> rfl

section Recursions

variable {session : Session ε κ τ} (number : Nat) (rest : List (Move κ τ))

private theorem hears_passed {move : Move κ τ} (passes : move.passes = true) :
    session.hears (move :: rest) = session.passesOn move ++ (session.move move).hears rest := by
  cases move with
  | work found => rfl
  | ask request =>
      cases request with
      | start connector => cases passes
      | stop => cases passes
      | _ => rfl

private theorem accounts_passed {move : Move κ τ} (passes : move.passes = true) :
    session.accounts number (move :: rest) = (session.move move).accounts number rest := by
  cases move with
  | work found => rfl
  | ask request =>
      cases request with
      | start connector => cases passes
      | stop => cases passes
      | _ => rfl

private theorem accounts_attached {connector : κ} (idle : session.worker = none)
    (accepted : (session.start connector).2 = .ok ()) :
    session.accounts number (.ask (.start connector) :: rest) =
      (number, .reader :: .size session.size :: (session.start connector).1.hears rest) ::
        (session.start connector).1.accounts (number + 1) rest := by
  simp [accounts, idle, accepted, Except.isOk, Except.toBool]

private theorem accounts_unattached {connector : κ}
    (failed : session.worker ≠ none ∨ (session.start connector).2 ≠ .ok ()) :
    session.accounts number (.ask (.start connector) :: rest) =
      (session.start connector).1.accounts (number + 1) rest := by
  have left : (session.worker.isNone && (session.start connector).2.isOk) = false := by
    cases failed with
    | inl running => simp [running]
    | inr refused =>
        cases outcome : (session.start connector).2 with
        | error cause => simp [Except.isOk, Except.toBool]
        | ok => exact absurd outcome refused
  simp [accounts, left]

end Recursions

/-- A move carries over to the accounts so far what it adds to those that are to come. -/
theorem move_accounts (ledger : Ledger ε κ τ) (paired : ledger.bare.Paired) (move : Move κ τ)
    (rest : List (Move κ τ)) :
    (ledger.move move).accountsWith ((ledger.bare.move move).hears rest) ++
        (ledger.bare.move move).accounts (ledger.move move).starts rest =
      ledger.accountsWith (ledger.bare.hears (move :: rest)) ++
        ledger.bare.accounts ledger.starts (move :: rest) := by
  have moved := ledger.move_moved move
  generalize ledger.move move = next at moved ⊢
  cases moved with
  | attached idle accepted holds account =>
      have detached : ledger.session.connector = none := by
        rw [Paired, idle] at paired
        simpa [bare, mapConnector] using paired
      obtain ⟨number, asked⟩ := Prod.mk.inj account
      rw [accounts_attached _ _ idle accepted]
      simp only [accountsWith, holds, detached, number, asked, Option.map_some, Option.map_none,
        Option.toList_some, Option.toList_none, List.append_nil, List.append_assoc]
      rfl
  | unattached failed =>
      rw [accounts_unattached _ _ failed]
      rfl
  | stopped =>
      simp only [accountsWith, List.map_append, List.append_assoc]
      cases ledger.session.connector <;> rfl
  | passed passes holds =>
      rw [hears_passed _ passes, accounts_passed _ _ passes]
      have longer := congrArg (Option.map fun entry : Nat × List Asked =>
        (entry.1, entry.2 ++ (ledger.bare.move move).hears rest)) holds
      simp only [Option.map_map, Function.comp_def, List.append_assoc] at longer
      simp only [accountsWith, ← longer]
      rfl

theorem play_accounts (ledger : Ledger ε κ τ) (paired : ledger.bare.Paired)
    (moves : List (Move κ τ)) :
    (ledger.play moves).known.map Noted.account =
      ledger.accountsWith (ledger.bare.hears moves) ++ ledger.bare.accounts ledger.starts moves := by
  induction moves generalizing ledger with
  | nil => exact ledger.known_accounts.trans (List.append_nil _).symm
  | cons move rest ih =>
      have kept : (ledger.move move).bare.Paired := by
        rw [move_bare]
        exact paired.move move
      have later := ih (ledger.move move) kept
      rw [move_bare] at later
      exact later.trans (ledger.move_accounts paired move rest)

/-!
## Closing once
-/

/-- Whoever is gone was closed once, and whoever is attached has not been closed. -/
structure Sealed (ledger : Ledger ε κ τ) : Prop where
  gone : ∀ noted ∈ ledger.parted, noted.asked.count .close = 1
  held : ∀ noted ∈ ledger.session.connector, .close ∉ noted.asked

omit [Connector κ] in
theorem initial_sealed (config : Config) : (initial config : Ledger ε κ τ).Sealed where
  gone := nofun
  held := nofun

omit [Connector κ] in
private theorem close_not_passed (session : Session ε κ τ) (move : Move κ τ) :
    .close ∉ session.passesOn move := by
  cases move with
  | work found => simp [passesOn]
  | ask request => cases request <;> simp [passesOn]

namespace Sealed

variable {ledger : Ledger ε κ τ}

theorem move (closed : ledger.Sealed) (move : Move κ τ) : (ledger.move move).Sealed := by
  have moved := ledger.move_moved move
  generalize ledger.move move = next at moved ⊢
  cases moved with
  | attached idle accepted holds account =>
      refine ⟨closed.gone, fun noted attached => ?_⟩
      obtain rfl := Option.some.inj (attached.symm.trans holds)
      have asked : noted.asked = _ := congrArg Prod.snd account
      simp [asked]
  | unattached => exact ⟨closed.gone, closed.held⟩
  | stopped =>
      refine ⟨fun noted member => ?_, nofun⟩
      obtain earlier | last := List.mem_append.mp member
      · exact closed.gone noted earlier
      · obtain ⟨held, attached, rfl⟩ := Option.map_eq_some_iff.mp (Option.mem_toList.mp last)
        have fresh := List.count_eq_zero.mpr (closed.held held attached)
        have once : (held.asked ++ [Asked.close]).count .close = 1 := by
          rw [List.count_append, fresh]
          rfl
        exact once
  | passed passes holds =>
      refine ⟨closed.gone, fun noted attached => ?_⟩
      rw [attached, Option.map_some] at holds
      obtain ⟨held, before, same⟩ := Option.map_eq_some_iff.mp holds.symm
      have asked : noted.asked = _ := (congrArg Prod.snd same).symm
      rw [asked, List.mem_append]
      exact not_or_intro (closed.held held before) (close_not_passed ledger.bare _)

theorem play (closed : ledger.Sealed) (moves : List (Move κ τ)) : (ledger.play moves).Sealed := by
  induction moves generalizing ledger with
  | nil => exact closed
  | cons move rest ih => exact ih (closed.move move)

end Sealed

end Ledger

/-- After any requests and rounds of the worker, a session has a connector exactly if it has a
worker. A start attaches a connector that has taken the size of the session and brings a
worker with it, or it leaves everything as it was, as it does with success while there is a
worker. A stop leaves neither, and what is sent then is dropped. The accounts of all
connectors are those of the starts that attached them: the reader, the size at that moment,
and then all that is passed on up to the close by the next stop, which is the only one. -/
theorem starts_and_stops_keep_together (config : Config) (moves : List (Move κ τ)) :
    let session := (ofConfig config : Session ε κ τ).play moves
    let ledger := (Ledger.initial config : Ledger ε κ τ).play moves
    (session.connector = none ↔ session.worker = none) ∧
      (∀ connector, Starts session connector (session.start connector)) ∧
      session.stop.1 = { session with connector := none, worker := none, exited := true } ∧
      (session.connector = none → ∀ bytes, session.send bytes = (session, .ok ())) ∧
      ledger.bare = session ∧
      ledger.known.map Noted.account = (ofConfig config : Session ε κ τ).accounts 0 moves ∧
      (∀ noted ∈ ledger.parted, noted.asked.count .close = 1) ∧
      ∀ noted ∈ ledger.session.connector, .close ∉ noted.asked := by
  intro session ledger
  have paired : session.Paired := (Paired.ofConfig config).play moves
  have closed : ledger.Sealed := (Ledger.initial_sealed config).play moves
  refine ⟨?_, session.start_starts, rfl, send_detached, Ledger.play_bare _ moves, ?_,
    closed.gone, closed.held⟩
  · rw [← Option.isNone_iff_eq_none, ← Option.isNone_iff_eq_none, ← Option.not_isSome,
      ← Option.not_isSome, paired]
  · exact (Ledger.initial config).play_accounts (Paired.ofConfig config) moves

/-- The second start finds the first connector attached, and the third is told the size that
the session has come to have. -/
example :
    (ofConfig { columns := 5, rows := 2 } : Session Screen.State Echo Unit).accounts 0
      [.ask (.start {}), .ask (.send [0x61]), .ask (.start {}), .ask (.send [0x62]), .ask .stop,
        .ask (.send [0x63]), .ask (.resize ⟨6, 2⟩), .ask (.start {})] =
      [(0, [.reader, .size ⟨5, 2⟩, .bytes [0x61], .bytes [0x62], .close]),
        (2, [.reader, .size ⟨6, 2⟩])] := by
  decide +kernel

end Session

end TtyFrame

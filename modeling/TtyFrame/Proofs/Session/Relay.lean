import Mathlib.Logic.Relation
import TtyFrame.Screen.Engine
import TtyFrame.Session.Worker

/-! The two threads of a run. A reader sends the pieces it reads through a channel, and a
worker receives, applies and announces them. Each step of a thread touches the channel or
the flag that reports the end of the output at most once, and the steps come in any order.
Whatever the order, a worker that leaves its loop has applied all that was sent, in order,
and has announced the last of it. -/

set_option autoImplicit false

namespace TtyFrame

/-!
## The threads and their steps
-/

/-- How far a reader has come. -/
inductive Reading where
  | reading
  /-- It has found the end of the output, or cannot read on, and reports that next. -/
  | ended
  /-- It has reported the end and lets go of the channel next. -/
  | reported
  | gone
  /-- It has let go of the channel because nobody receives any more. -/
  | unheard
deriving DecidableEq, Repr

/-- How far a worker has come in its loop. -/
inductive Turn where
  /-- It looks next whether it is asked to leave. -/
  | top
  | waiting
  /-- It has received some pieces and takes what else has come. -/
  | gathering (taken : List (List UInt8))
  /-- It has found the channel cut off and reports that next. -/
  | cut
  | telling
  /-- It looks next whether the end was reported. -/
  | asking
  /-- The end was reported, and it takes what is left. -/
  | draining (taken : List (List UInt8))
  | left
deriving DecidableEq, Repr

/-- The pieces that a worker has received and not applied. -/
def Turn.inHand : Turn → List (List UInt8)
  | .gathering taken | .draining taken => taken
  | .top | .waiting | .cut | .telling | .asking | .left => []

/-- The change that a batch has made when it has just been applied. -/
def Progress.current {ε : Type} [Engine ε] (progress : Progress ε) : BufferChange :=
  .ofView progress.worker.generation (Engine.view progress.screen)

/-- A reader and a worker with the channel between them. -/
structure Relay (ε : Type) [Engine ε] where
  /-- The pieces that are still to be read and sent. -/
  unread : List (List UInt8)
  reading : Reading := .reading
  /-- The pieces that were sent and not received. -/
  queue : List (List UInt8) := []
  turn : Turn := .top
  /-- The worker is asked to leave. -/
  dismissed : Bool := false
  progress : Progress ε
  /-- The change that each batch has made, oldest first. -/
  captured : List BufferChange := []

namespace Relay

variable {ε : Type} [Engine ε]

def initial (screen : ε) (pieces : List (List UInt8)) : Relay ε :=
  { unread := pieces, progress := { worker := {}, screen } }

/-- The worker works on the screen as others have left it. -/
def withScreen (relay : Relay ε) (screen : ε) : Relay ε :=
  { relay with progress := { relay.progress with screen } }

/-- Applies a batch on the way to a place in the loop. -/
def apply (relay : Relay ε) (batch : List UInt8) (turn : Turn) : Relay ε :=
  let progress := relay.progress.apply batch
  { relay with progress, turn, captured := relay.captured ++ [progress.current] }

/-- Applies the pieces that were left, unless there is nothing in them, announces the last
change and leaves. -/
def finish (relay : Relay ε) (late : List (List UInt8)) : Relay ε :=
  let progress := relay.progress.finish late
  { relay with
    progress, turn := .left
    captured :=
      if late.flatten.isEmpty then relay.captured
      else relay.captured ++ [(relay.progress.apply late.flatten).current] }

/-- One step of either thread, with the flag that reports the end of the output. -/
inductive Step : Bool × Relay ε → Bool × Relay ε → Prop where
  | send {exited relay} {piece : List UInt8} {rest : List (List UInt8)}
      (reads : relay.reading = .reading) (next : relay.unread = piece :: rest)
      (heard : relay.turn ≠ .left) :
      Step (exited, relay) (exited, { relay with unread := rest, queue := relay.queue ++ [piece] })
  | giveUp {exited relay} (reads : relay.reading = .reading) (some : relay.unread ≠ [])
      (unheard : relay.turn = .left) :
      Step (exited, relay) (exited, { relay with reading := .unheard })
  | findEnd {exited relay} (reads : relay.reading = .reading) (none : relay.unread = []) :
      Step (exited, relay) (exited, { relay with reading := .ended })
  | reportEnd {exited relay} (ended : relay.reading = .ended) :
      Step (exited, relay) (true, { relay with reading := .reported })
  | letGo {exited relay} (reported : relay.reading = .reported) :
      Step (exited, relay) (exited, { relay with reading := .gone })
  | obey {exited relay} (top : relay.turn = .top) (asked : relay.dismissed = true) :
      Step (exited, relay) (exited, { relay with turn := .left })
  | wait {exited relay} (top : relay.turn = .top) (free : relay.dismissed = false) :
      Step (exited, relay) (exited, { relay with turn := .waiting })
  | receive {exited relay} {piece : List UInt8} {rest : List (List UInt8)}
      (waits : relay.turn = .waiting) (next : relay.queue = piece :: rest) :
      Step (exited, relay) (exited, { relay with turn := .gathering [piece], queue := rest })
  | timeOut {exited relay} (waits : relay.turn = .waiting) :
      Step (exited, relay) (exited, { relay with turn := .telling })
  | disconnect {exited relay} (waits : relay.turn = .waiting) (empty : relay.queue = [])
      (gone : relay.reading = .gone) : Step (exited, relay) (exited, { relay with turn := .cut })
  | reportCut {exited relay} (cut : relay.turn = .cut) :
      Step (exited, relay) (true, { relay with turn := .telling })
  | gather {exited relay} {taken : List (List UInt8)} {piece : List UInt8}
      {rest : List (List UInt8)} (gathers : relay.turn = .gathering taken)
      (next : relay.queue = piece :: rest) :
      Step (exited, relay)
        (exited, { relay with turn := .gathering (taken ++ [piece]), queue := rest })
  /-- How many pieces make a batch is left open. -/
  | apply {exited relay} {taken : List (List UInt8)} (gathers : relay.turn = .gathering taken) :
      Step (exited, relay) (exited, relay.apply taken.flatten .telling)
  | tell {exited relay} (tells : relay.turn = .telling) :
      Step (exited, relay)
        (exited, { relay with progress := relay.progress.announce, turn := .asking })
  /-- The last announcement is too recent. -/
  | hold {exited relay} (tells : relay.turn = .telling) :
      Step (exited, relay) (exited, { relay with turn := .asking })
  | goOn {relay} (asks : relay.turn = .asking) :
      Step (false, relay) (false, { relay with turn := .top })
  | drain {relay} (asks : relay.turn = .asking) :
      Step (true, relay) (true, { relay with turn := .draining [] })
  | takeLate {exited relay} {taken : List (List UInt8)} {piece : List UInt8}
      {rest : List (List UInt8)} (drains : relay.turn = .draining taken)
      (next : relay.queue = piece :: rest) :
      Step (exited, relay)
        (exited, { relay with turn := .draining (taken ++ [piece]), queue := rest })
  | finish {exited relay} {taken : List (List UInt8)} (drains : relay.turn = .draining taken)
      (empty : relay.queue = []) : Step (exited, relay) (exited, relay.finish taken)

/-- Any number of steps of the two threads, in any order. -/
abbrev Steps : Bool × Relay ε → Bool × Relay ε → Prop := Relation.ReflTransGen Step

/-- One step of either thread, or of somebody else: the end of the output may be reported
from elsewhere once the reader has sent its last piece, and anything may happen to the
screen while the worker does not hold it. -/
inductive Move : Bool × Relay ε → Bool × Relay ε → Prop where
  | thread {before after} (step : Step before after) : Move before after
  | report {exited relay} (sent : relay.unread = []) : Move (exited, relay) (true, relay)
  | touch {exited relay} (screen : ε) :
      Move (exited, relay) (exited, relay.withScreen screen)

/-- Any number of moves, in any order. -/
abbrev Moves : Bool × Relay ε → Bool × Relay ε → Prop := Relation.ReflTransGen Move

end Relay

/-!
## The account of changes
-/

section Account

variable {ε : Type} [Engine ε]

/-- An account of the changes. Batches are numbered as they are applied. What was announced
or is held back was made by a batch, in order, and the last of it is the last change. -/
structure Progress.Accounts (captured : List BufferChange) (progress : Progress ε) : Prop where
  counted : captured.length = progress.batches.length
  numbered : captured.map (·.generation) = List.range' 1 progress.worker.generation
  ordered : (progress.announced ++ progress.worker.pending.toList).Sublist captured
  newest : (progress.announced ++ progress.worker.pending.toList).getLast? = captured.getLast?

namespace Progress.Accounts

variable {captured : List BufferChange} {progress : Progress ε}

theorem apply (accounts : progress.Accounts captured) (batch : List UInt8) :
    (progress.apply batch).Accounts (captured ++ [(progress.apply batch).current]) where
  counted := by simp [Progress.apply, accounts.counted]
  numbered := by
    rw [List.map_append, accounts.numbered, Progress.apply, List.range'_1_concat, Nat.add_comm]
    rfl
  ordered := by
    have before : progress.announced.Sublist captured :=
      (List.sublist_append_left _ _).trans accounts.ordered
    exact before.append (.refl _)
  newest := by
    simp [Progress.apply, Progress.current]

theorem announce (accounts : progress.Accounts captured) : progress.announce.Accounts captured where
  counted := accounts.counted
  numbered := accounts.numbered
  ordered := by simpa [Progress.announce] using accounts.ordered
  newest := by simpa [Progress.announce] using accounts.newest

theorem finish (accounts : progress.Accounts captured) (late : List (List UInt8)) :
    (progress.finish late).Accounts
      (if late.flatten.isEmpty then captured
        else captured ++ [(progress.apply late.flatten).current]) := by
  unfold Progress.finish
  split
  · exact { accounts.announce with }
  · exact { (accounts.apply late.flatten).announce with }

/-- Numbers are announced in order and never twice. -/
theorem increasing (accounts : progress.Accounts captured) :
    (progress.announced.map (·.generation)).Pairwise (· < ·) := by
  have numbers : (progress.announced.map (·.generation)).Sublist
      (List.range' 1 progress.worker.generation) := by
    rw [← accounts.numbered]
    exact ((List.sublist_append_left _ _).trans accounts.ordered).map _
  have ascending : (List.range' 1 progress.worker.generation).Pairwise (· < ·) :=
    List.pairwise_lt_range'
  exact ascending.sublist numbers

theorem last_announced (accounts : progress.Accounts captured)
    (told : progress.worker.pending = none) (applied : progress.batches ≠ []) :
    ∃ change, captured.getLast? = some change ∧ progress.announced.getLast? = some change := by
  have some : captured ≠ [] := by
    rw [← List.length_pos_iff, accounts.counted, List.length_pos_iff]
    exact applied
  have newest := accounts.newest
  rw [told, Option.toList_none, List.append_nil] at newest
  exact ⟨captured.getLast some, List.getLast?_eq_some_getLast some,
    newest.trans (List.getLast?_eq_some_getLast some)⟩

end Progress.Accounts

end Account

/-!
## Nothing is lost on the way
-/

namespace Relay

variable {ε : Type} [Engine ε]

/-- Nothing is lost on the way: what was to be read has been applied, or is in the worker's
hand, in the channel, or still to be read. The end is not reported before all is sent, so
a worker that leaves because of that has nothing more to wait for. -/
structure Sound (pieces : List (List UInt8)) (exited : Bool) (relay : Relay ε) : Prop where
  kept : relay.progress.batches.flatten ++
    (relay.turn.inHand ++ relay.queue ++ relay.unread).flatten = pieces.flatten
  accounts : relay.progress.Accounts relay.captured
  sent : exited = true ∨ relay.reading ≠ .reading → relay.unread = []
  disconnected : relay.turn = .cut → relay.reading = .gone
  draining : ∀ taken, relay.turn = .draining taken → exited = true
  left : relay.turn = .left →
    relay.unread = [] ∧ relay.queue = [] ∧ relay.progress.worker.pending = none
  free : relay.dismissed = false

theorem initial_sound (screen : ε) (pieces : List (List UInt8)) :
    (initial screen pieces).Sound pieces false where
  kept := rfl
  accounts := ⟨rfl, rfl, .refl _, rfl⟩
  sent early := by simp [initial] at early
  disconnected cut := by cases cut
  draining taken drains := by cases drains
  left gone := by cases gone
  free := rfl

namespace Sound

variable {pieces : List (List UInt8)} {exited : Bool} {relay : Relay ε}

/-- Once all is sent, the end may be reported at any moment. -/
theorem report (sound : relay.Sound pieces exited) (sent : relay.unread = []) :
    relay.Sound pieces true :=
  { sound with
    sent := fun _ => sent
    draining := fun _ _ => rfl }

theorem touch (sound : relay.Sound pieces exited) (screen : ε) :
    (relay.withScreen screen).Sound pieces exited :=
  { sound with accounts := { sound.accounts with } }

private theorem readingTo (sound : relay.Sound pieces exited) (next : Reading)
    (sent : relay.unread = []) (disconnected : relay.turn = .cut → next = .gone) :
    Sound pieces exited { relay with reading := next } :=
  { sound with
    sent := fun _ => sent
    disconnected }

/-- The worker goes on to a place where it has as much in its hand. -/
theorem turnTo (sound : relay.Sound pieces exited) (next : Turn)
    (hand : next.inHand = relay.turn.inHand) (stays : next ≠ .left)
    (disconnected : next = .cut → relay.reading = .gone)
    (draining : ∀ taken, next = .draining taken → exited = true) :
    Sound pieces exited { relay with turn := next } :=
  { sound with
    kept := by
      have kept := sound.kept
      rw [← hand] at kept
      exact kept
    disconnected, draining
    left := fun leaves => absurd leaves stays }

/-- The worker takes the next piece out of the channel. -/
theorem takeNext (sound : relay.Sound pieces exited) {piece : List UInt8}
    {rest : List (List UInt8)} (queued : relay.queue = piece :: rest) (next : Turn)
    (hand : next.inHand = relay.turn.inHand ++ [piece]) (stays : next ≠ .left)
    (disconnected : next = .cut → relay.reading = .gone)
    (draining : ∀ taken, next = .draining taken → exited = true) :
    Sound pieces exited { relay with turn := next, queue := rest } :=
  { sound with
    kept := by
      rw [← sound.kept, queued]
      simp [hand]
    disconnected, draining
    left := fun leaves => absurd leaves stays }

theorem announce (sound : relay.Sound pieces exited) :
    Sound pieces exited { relay with progress := relay.progress.announce } :=
  { sound with
    kept := sound.kept
    accounts := sound.accounts.announce
    left := fun leaves => ⟨(sound.left leaves).1, (sound.left leaves).2.1, rfl⟩ }

/-- A batch of all that the worker has in its hand. -/
theorem apply (sound : relay.Sound pieces exited) {taken : List (List UInt8)}
    (hand : relay.turn.inHand = taken) :
    (relay.apply taken.flatten .telling).Sound pieces exited :=
  { sound with
    kept := by
      rw [← sound.kept, hand]
      simp [Relay.apply, Progress.apply, Turn.inHand]
    accounts := sound.accounts.apply taken.flatten
    disconnected := nofun
    draining := nofun
    left := nofun }

private theorem finish_batches (progress : Progress ε) (late : List (List UInt8)) :
    (progress.finish late).batches.flatten = progress.batches.flatten ++ late.flatten := by
  unfold Progress.finish
  split
  · next nothing =>
    rw [List.isEmpty_iff.mp nothing, List.append_nil]
    rfl
  · simp [Progress.announce, Progress.apply]

private theorem finish_pending (progress : Progress ε) (late : List (List UInt8)) :
    (progress.finish late).worker.pending = none := rfl

theorem finish (sound : relay.Sound pieces exited) {taken : List (List UInt8)}
    (drains : relay.turn = .draining taken) (empty : relay.queue = []) :
    (relay.finish taken).Sound pieces exited := by
  -- The end was reported, so nothing is on its way any more and the channel has the rest.
  have sent : relay.unread = [] := sound.sent (.inl (sound.draining taken drains))
  exact
    { sound with
      kept := by
        have kept := sound.kept
        rw [drains, empty, sent] at kept
        rw [← kept, Relay.finish, finish_batches]
        simp [Turn.inHand, empty, sent]
      accounts := sound.accounts.finish taken
      disconnected := nofun
      draining := nofun
      left := fun _ => ⟨sent, empty, finish_pending _ _⟩ }

theorem send (sound : relay.Sound pieces exited) {piece : List UInt8}
    {rest : List (List UInt8)} (next : relay.unread = piece :: rest) (heard : relay.turn ≠ .left) :
    Sound pieces exited { relay with unread := rest, queue := relay.queue ++ [piece] } :=
  { sound with
    kept := by
      rw [← sound.kept, next]
      simp
    sent := fun early => by
      have none := sound.sent early
      rw [next] at none
      cases none
    left := fun leaves => absurd leaves heard }

theorem step {before after : Bool × Relay ε} (sound : before.2.Sound pieces before.1)
    (step : Step before after) : after.2.Sound pieces after.1 := by
  cases step with
  | send reads next heard => exact sound.send next heard
  -- A worker leaves only when nothing is left to be read.
  | giveUp reads some unheard => exact absurd (sound.left unheard).1 some
  | findEnd reads none =>
      refine sound.readingTo .ended none fun cut => ?_
      have gone := sound.disconnected cut
      rw [reads] at gone
      cases gone
  | @reportEnd exited relay ended =>
      have sent : relay.unread = [] := sound.sent (.inr (by rw [ended]; decide))
      refine (sound.report sent).readingTo .reported sent fun cut => ?_
      have gone := sound.disconnected cut
      rw [ended] at gone
      cases gone
  | @letGo exited relay reported =>
      have sent : relay.unread = [] := sound.sent (.inr (by rw [reported]; decide))
      exact sound.readingTo .gone sent fun _ => rfl
  | @obey exited relay top asked =>
      have free : relay.dismissed = false := sound.free
      rw [free] at asked
      cases asked
  | wait top free => exact sound.turnTo .waiting (by rw [top]; rfl) nofun nofun nofun
  | receive waits next =>
      exact sound.takeNext next (.gathering _) (by rw [waits]; rfl) nofun nofun nofun
  | timeOut waits => exact sound.turnTo .telling (by rw [waits]; rfl) nofun nofun nofun
  | disconnect waits empty gone =>
      exact sound.turnTo .cut (by rw [waits]; rfl) nofun (fun _ => gone) nofun
  | @reportCut exited relay cut =>
      have gone : relay.reading = .gone := sound.disconnected cut
      have sent : relay.unread = [] := sound.sent (.inr (by rw [gone]; decide))
      exact (sound.report sent).turnTo .telling (by rw [cut]; rfl) nofun nofun nofun
  | gather gathers next =>
      exact sound.takeNext next (.gathering _) (by rw [gathers]; rfl) nofun nofun nofun
  | apply gathers => exact sound.apply (by rw [gathers]; rfl)
  | tell tells =>
      exact sound.announce.turnTo .asking (by rw [show _ = Turn.telling from tells]; rfl)
        nofun nofun nofun
  | hold tells => exact sound.turnTo .asking (by rw [tells]; rfl) nofun nofun nofun
  | goOn asks => exact sound.turnTo .top (by rw [asks]; rfl) nofun nofun nofun
  | drain asks =>
      exact sound.turnTo (.draining []) (by rw [asks]; rfl) nofun nofun fun _ _ => rfl
  | takeLate drains next =>
      exact sound.takeNext next (.draining _) (by rw [drains]; rfl) nofun nofun
        fun _ _ => sound.draining _ drains
  | finish drains empty => exact sound.finish drains empty

theorem move {before after : Bool × Relay ε} (sound : before.2.Sound pieces before.1)
    (move : Move before after) : after.2.Sound pieces after.1 := by
  cases move with
  | thread step => exact sound.step step
  | report sent => exact sound.report sent
  | touch screen => exact sound.touch screen

theorem moves {before after : Bool × Relay ε} (sound : before.2.Sound pieces before.1)
    (moves : Moves before after) : after.2.Sound pieces after.1 := by
  induction moves with
  | refl => exact sound
  | tail _ last ih => exact ih.move last

end Sound

/-!
## Leaving the loop
-/

/-- A worker that has left its loop, without being asked to, has applied all pieces in
order. It has announced rising numbers, and what it announced last is the change of the
last batch. -/
theorem left_applied_announced (screen : ε) (pieces : List (List UInt8))
    {exited : Bool} {relay : Relay ε}
    (reached : Moves (false, initial screen pieces) (exited, relay))
    (left : relay.turn = .left) :
    relay.progress.batches.flatten = pieces.flatten ∧
      (relay.progress.announced.map (·.generation)).Pairwise (· < ·) ∧
      relay.captured.length = relay.progress.batches.length ∧
      (relay.progress.batches ≠ [] → ∃ change, relay.captured.getLast? = some change ∧
        relay.progress.announced.getLast? = some change) := by
  have sound : relay.Sound pieces exited := (initial_sound screen pieces).moves reached
  obtain ⟨sent, received, told⟩ := sound.left left
  refine ⟨?_, sound.accounts.increasing, sound.accounts.counted, sound.accounts.last_announced told⟩
  rw [← sound.kept, left, received, sent]
  simp [Turn.inHand]

/-- Two pieces make a batch whose change is held back. The third is sent, and the end is
reported from elsewhere, while the worker waits in vain. -/
def overdue : Relay Screen.State :=
  let sent := initial (.blank 3 1 0 {}) [[0x41], [0x42], [0x43]]
  let held := { sent with unread := [] }.apply [0x41, 0x42] .asking
  { held with progress := held.progress.announce }.finish [[0x43]]

private theorem overdue_reached :
    Moves (false, initial (.blank 3 1 0 {}) [[0x41], [0x42], [0x43]]) (true, overdue) := by
  refine .head (.thread (.send rfl rfl (by decide))) (.head (.thread (.wait rfl rfl)) ?_)
  refine .head (.thread (.receive rfl rfl)) (.head (.thread (.send rfl rfl (by decide))) ?_)
  refine .head (.thread (.gather rfl rfl)) (.head (.thread (.apply rfl)) ?_)
  refine .head (.thread (.hold rfl)) (.head (.thread (.goOn rfl)) ?_)
  refine .head (.thread (.send rfl rfl (by decide))) (.head (.thread (.wait rfl rfl)) ?_)
  refine .head (.thread (.timeOut rfl)) (.head (.report rfl) (.head (.thread (.tell rfl)) ?_))
  refine .head (.thread (.drain rfl)) (.head (.thread (.takeLate rfl rfl)) ?_)
  exact .single (.thread (.finish rfl rfl))

theorem left_applied_announced_overdue :
    Moves (false, initial (.blank 3 1 0 {}) [[0x41], [0x42], [0x43]]) (true, overdue) ∧
      overdue.turn = .left ∧ overdue.progress.batches = [[0x41, 0x42], [0x43]] ∧
      overdue.progress.batches.flatten = [[0x41], [0x42], [0x43]].flatten ∧
      overdue.captured = [⟨1, 0, false⟩, ⟨2, 0, false⟩] ∧
      ∃ change, overdue.captured.getLast? = some change ∧
        overdue.progress.announced.getLast? = some change := by
  obtain ⟨applied, -, -, last⟩ := left_applied_announced _ _ overdue_reached rfl
  exact ⟨overdue_reached, rfl, rfl, applied, by decide, last (List.cons_ne_nil _ _)⟩

/-!
## Rounds

A round of the worker is what its steps come to when there is no other step between them.
-/

theorem gather_steps (exited : Bool) (relay : Relay ε) {taken more rest : List (List UInt8)}
    (gathers : relay.turn = .gathering taken) (queued : relay.queue = more ++ rest) :
    Steps (exited, relay)
      (exited, { relay with turn := .gathering (taken ++ more), queue := rest }) := by
  induction more generalizing relay taken with
  | nil =>
      rw [List.append_nil, ← gathers, ← List.nil_append rest, ← queued]
  | cons piece more ih =>
      -- The piece in hand goes behind those that were taken before.
      have later := ih
        { relay with turn := .gathering (taken ++ [piece]), queue := more ++ rest } rfl rfl
      rw [List.append_assoc] at later
      exact .head (.gather gathers queued) later

theorem drain_steps (exited : Bool) (relay : Relay ε) {taken late : List (List UInt8)}
    (drains : relay.turn = .draining taken) (queued : relay.queue = late) :
    Steps (exited, relay)
      (exited, { relay with turn := .draining (taken ++ late), queue := [] }) := by
  induction late generalizing relay taken with
  | nil =>
      rw [List.append_nil, ← drains, ← queued]
  | cons piece late ih =>
      have later := ih { relay with turn := .draining (taken ++ [piece]), queue := late } rfl rfl
      rw [List.append_assoc] at later
      exact .head (.takeLate drains queued) later

/-- What a wait can end with, and what it leaves in the channel. -/
def Brings (relay : Relay ε) (rest : List (List UInt8)) : Receipt → Prop
  | .pieces pieces => pieces ≠ [] ∧ relay.queue = pieces ++ rest
  | .timeout => relay.queue = rest
  | .ended => relay.queue = [] ∧ rest = [] ∧ relay.reading = .gone

theorem receive_steps (exited : Bool) (relay : Relay ε) {rest : List (List UInt8)}
    {received : Receipt} (waits : relay.turn = .waiting) (brings : relay.Brings rest received) :
    ∃ next, Steps (exited, relay) (exited || decide (received = .ended), next) ∧
      next.turn = .telling ∧ next.queue = rest ∧
      next.progress = relay.progress.receive received := by
  cases received with
  | pieces pieces =>
      obtain ⟨some, queued⟩ := brings
      obtain ⟨first, more, rfl⟩ := List.exists_cons_of_ne_nil some
      let gathered : Relay ε := { relay with turn := .gathering (first :: more), queue := rest }
      have gather := gather_steps exited
        { relay with turn := .gathering [first], queue := more ++ rest } rfl rfl
      refine ⟨gathered.apply (first :: more).flatten .telling, ?_, rfl, rfl, rfl⟩
      simpa using (gather.tail (.apply rfl)).head (.receive waits queued)
  | timeout =>
      refine ⟨{ relay with turn := .telling }, ?_, rfl, brings, rfl⟩
      simpa using Relation.ReflTransGen.single (.timeOut waits)
  | ended =>
      obtain ⟨empty, rfl, gone⟩ := brings
      have cut : Steps (exited, relay) (exited, { relay with turn := .cut }) :=
        .single (.disconnect waits empty gone)
      refine ⟨{ relay with turn := .telling }, ?_, rfl, empty, rfl⟩
      simpa using cut.tail (.reportCut rfl)

theorem tell_steps (exited : Bool) {relay : Relay ε} (tells : relay.turn = .telling) (due : Bool) :
    Steps (exited, relay)
      (exited, { relay with
        turn := .asking
        progress := if due then relay.progress.announce else relay.progress }) := by
  cases due with
  | false => exact .single (.hold tells)
  | true => exact .single (.tell tells)

/-- The steps of a worker that is not asked to leave, from the top of its loop to the top
again or out of it, make the round of what the worker finds. -/
theorem round_steps {exited : Bool} {relay : Relay ε} {found : Round} (top : relay.turn = .top)
    (free : relay.dismissed = false) (busy : relay.progress.worker.done = false)
    (brings : relay.Brings found.late found.received) (flag : found.exited = exited) :
    ∃ next, Steps (exited, relay) (exited || decide (found.received = .ended), next) ∧
      next.progress = relay.progress.round found ∧
      next.turn = if found.exited ∨ found.received = .ended then .left else .top := by
  obtain ⟨received, receive, tells, late, applied⟩ :=
    receive_steps exited { relay with turn := .waiting } rfl brings
  have begin : Steps (exited, relay) (exited || decide (found.received = .ended), received) :=
    receive.head (.wait top free)
  have told := begin.trans (tell_steps _ tells found.due)
  rw [applied] at told
  have whole : relay.progress.round found =
      (if found.exited || found.received = .ended then
        (if found.due then (relay.progress.receive found.received).announce
          else relay.progress.receive found.received).finish found.late
      else if found.due then (relay.progress.receive found.received).announce
        else relay.progress.receive found.received) := by
    simp [Progress.round, busy]
  rw [whole, flag]
  cases reported : exited || decide (found.received = .ended) with
  | false =>
      rw [reported] at told
      refine ⟨_, told.tail (.goOn rfl), rfl, ?_⟩
      simp_all
  | true =>
      rw [reported] at told
      have drained := (told.tail (.drain rfl)).trans (drain_steps true _ rfl late)
      refine ⟨_, drained.tail (.finish rfl rfl), ?_, ?_⟩
      · simp [Relay.finish]
      · simp_all [Relay.finish]

end Relay

end TtyFrame

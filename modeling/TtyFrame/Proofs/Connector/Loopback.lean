import TtyFrame.Connector.Echo
import TtyFrame.Text.Bytes

/-! The stream of an echo connector. One thread holds the connector and one has its reader;
each looks at the pipe while it holds the lock, and a read that finds nothing sleeps until
it is notified. In whatever order they go on, every byte that was written before the end
is read once and in order, and the end is found behind the last of them. -/

set_option autoImplicit false

namespace TtyFrame.Echo

/-!
## Moves of the two threads
-/

/-- Where the thread that reads stands. -/
inductive Reader where
  | idle
  /-- It is in a read with a buffer of some size and looks at the pipe next. -/
  | looking (size : Nat)
  /-- It has found nothing and sleeps until it is notified. -/
  | asleep (size : Nat)
deriving DecidableEq, Repr

namespace Reader

def notified : Reader → Reader
  | .asleep size => .looking size
  | .idle => .idle
  | .looking size => .looking size

def size? : Reader → Option Nat
  | .idle => none
  | .looking size | .asleep size => some size

private theorem notified_size? (reader : Reader) : reader.notified.size? = reader.size? := by
  cases reader with
  | idle => rfl
  | looking size => rfl
  | asleep size => rfl

private theorem notified_ne_asleep (reader : Reader) (size : Nat) :
    reader.notified ≠ .asleep size := by
  cases reader with
  | idle => exact nofun
  | looking size => exact nofun
  | asleep size => exact nofun

end Reader

inductive Move where
  | takeReader
  | write (bytes : List UInt8)
  | close
  | drop
  | read (size : Nat)
  /-- A read that is under way takes the lock and goes on. -/
  | look
  /-- A sleeping read wakes up without having been notified. -/
  | stir
deriving DecidableEq, Repr

inductive Event where
  | wrote (bytes : List UInt8)
  | ended
  | returned (size : Nat) (bytes : List UInt8)
deriving DecidableEq, Repr

/-- An echo connector with the thread that has its reader. -/
structure Link where
  echo : Echo
  reader : Reader := .idle
  /-- The connector is gone. Its reader stays. -/
  dropped : Bool := false
deriving DecidableEq, Repr

namespace Link

def opened (text : String) : Link := { echo := .withOutput text }

def pipe (link : Link) : Pipe := link.echo.pipe

/-- Makes a move, and says what happened to the stream. Nothing comes of a move that cannot
be made. -/
def move (link : Link) : Move → Link × Option Event
  | .takeReader =>
    match link.echo.takeReader with
    | .ok echo => if link.dropped then (link, none) else ({ link with echo }, none)
    | .error _ => (link, none)
  | .write bytes =>
    if link.dropped then (link, none)
    else
      -- A closed pipe is left without a notification.
      let reader := if link.pipe.closed then link.reader else link.reader.notified
      ({ link with echo := link.echo.write bytes, reader }, some (.wrote bytes))
  | .close =>
    if link.dropped then (link, none)
    else ({ link with echo := link.echo.close, reader := link.reader.notified }, some .ended)
  | .drop =>
    if link.dropped then (link, none)
    else
      ({ echo := link.echo.close, reader := link.reader.notified, dropped := true }, some .ended)
  | .read size =>
    if link.echo.readerTaken && link.reader = .idle then
      if size = 0 then (link, some (.returned 0 [])) else ({ link with reader := .looking size }, none)
    else (link, none)
  | .look =>
    match link.reader with
    | .looking size =>
      if link.pipe.wouldBlock size then ({ link with reader := .asleep size }, none)
      else
        let (pipe, bytes) := link.pipe.read size
        ({ link with echo := { link.echo with pipe }, reader := .idle }, some (.returned size bytes))
    | .idle | .asleep _ => (link, none)
  | .stir => ({ link with reader := link.reader.notified }, none)

def follow (link : Link) : List Move → Link × List Event
  | [] => (link, [])
  | move :: rest =>
    let (next, event) := link.move move
    let (last, events) := next.follow rest
    (last, event.toList ++ events)

end Link

/-!
## What was written and what was read
-/

/-- What was read, all reads together. -/
def delivered (events : List Event) : List UInt8 :=
  events.flatMap fun
    | .returned _ bytes => bytes
    | .wrote _ | .ended => []

/-- What was written before the first end. -/
def accepted : List Event → List UInt8
  | [] => []
  | .wrote bytes :: rest => bytes ++ accepted rest
  | .ended :: _ => []
  | .returned _ _ :: rest => accepted rest

/-- What was there at first or was accepted, and has not been read. -/
def unread (initial : List UInt8) (events : List Event) : List UInt8 :=
  (initial ++ accepted events).drop (delivered events).length

theorem delivered_append (first second : List Event) :
    delivered (first ++ second) = delivered first ++ delivered second :=
  List.flatMap_append ..

theorem accepted_append (first second : List Event) :
    accepted (first ++ second) =
      accepted first ++ if .ended ∈ first then [] else accepted second := by
  induction first with
  | nil => rfl
  | cons event rest ih =>
    cases event with
    | wrote bytes => simp [accepted, ih]
    | ended => simp [accepted]
    | returned size bytes => simp [accepted, ih]

/-- What a read comes back with, given what was unread and whether the stream had ended. -/
structure Answers (unread : List UInt8) (atEnd : Prop) (size : Nat) (bytes : List UInt8) :
    Prop where
  first : bytes = unread.take size
  filled : 0 < size → unread ≠ [] → 1 ≤ bytes.length ∧ bytes.length ≤ size
  dry : 0 < size → bytes = [] → unread = [] ∧ atEnd
  roomless : size = 0 → bytes = []

private theorem Answers.roomless_read (unread : List UInt8) (atEnd : Prop) :
    Answers unread atEnd 0 [] where
  first := rfl
  filled room := absurd room (Nat.lt_irrefl 0)
  dry room := absurd room (Nat.lt_irrefl 0)
  roomless _ := rfl

private theorem Answers.of_ready {unread : List UInt8} {atEnd : Prop} {size : Nat} (room : 0 < size)
    (ready : unread = [] → atEnd) : Answers unread atEnd size (unread.take size) where
  first := rfl
  filled _ some := by
    have waiting := List.length_pos_iff.mpr some
    rw [List.length_take]
    omega
  dry _ nothing := by
    have empty : unread = [] := by
      obtain none | empty := List.take_eq_nil_iff.mp nothing
      · omega
      · exact empty
    exact ⟨empty, ready empty⟩
  roomless none := absurd room (by omega)

private theorem delivered_of_ne {event : Event}
    (other : ∀ size bytes, event ≠ .returned size bytes) :
    delivered [event] = [] := by
  cases event with
  | wrote bytes => rfl
  | ended => rfl
  | returned size bytes => exact absurd rfl (other size bytes)

private theorem append_event_cases {events before after : List Event} {last event : Event}
    (split : events ++ [last] = before ++ event :: after) :
    (∃ rest, after = rest ++ [last] ∧ events = before ++ event :: rest) ∨
      after = [] ∧ before = events ∧ event = last := by
  obtain rfl | ⟨rest, final, rfl⟩ := List.eq_nil_or_concat after
  · obtain ⟨rfl, same⟩ := List.append_inj' split rfl
    exact .inr ⟨rfl, rfl, (List.singleton_inj.mp same).symm⟩
  · rw [List.concat_eq_append, ← List.cons_append, ← List.append_assoc] at split
    obtain ⟨rfl, same⟩ := List.append_inj' split rfl
    rw [List.singleton_inj] at same
    exact .inl ⟨rest, by rw [List.concat_eq_append, same], rfl⟩

/-!
## The books of a link
-/

/-- What holds of a link after some events. -/
structure Sound (initial : List UInt8) (events : List Event) (link : Link) : Prop where
  kept : delivered events ++ link.pipe.pending = initial ++ accepted events
  atEnd : link.pipe.closed = true ↔ .ended ∈ events
  roomy : ∀ size, link.reader.size? = some size → 0 < size
  asleep : ∀ size, link.reader = .asleep size →
    link.pipe.pending = [] ∧ link.pipe.closed = false
  answers : ∀ before size bytes after, events = before ++ .returned size bytes :: after →
    Answers (unread initial before) (.ended ∈ before) size bytes
  final : ∀ before size after, events = before ++ .returned size [] :: after → 0 < size →
    delivered after = [] ∧ link.pipe.pending = []

theorem opened_sound (text : String) : Sound (Text.bytes text) [] (.opened text) where
  kept := (List.append_nil _).symm
  atEnd := by simp [Link.opened, Link.pipe, withOutput, Pipe.write]
  roomy _ under := nomatch under
  asleep _ under := nomatch under
  answers before size bytes after split := by simp at split
  final before size after split := by simp at split

namespace Sound

variable {initial : List UInt8} {events : List Event} {link : Link}

private theorem unread_eq (sound : Sound initial events link) :
    unread initial events = link.pipe.pending := by
  rw [unread, ← sound.kept, List.drop_left]

theorem still (sound : Sound initial events link) {next : Link} (pipe : next.pipe = link.pipe)
    (roomy : ∀ size, next.reader.size? = some size → 0 < size)
    (asleep : ∀ size, next.reader = .asleep size →
      link.pipe.pending = [] ∧ link.pipe.closed = false) :
    Sound initial events next where
  kept := by rw [pipe]; exact sound.kept
  atEnd := by rw [pipe]; exact sound.atEnd
  roomy := roomy
  asleep := by rw [pipe]; exact asleep
  answers := sound.answers
  final := by rw [pipe]; exact sound.final

private theorem notified (sound : Sound initial events link) :
    Sound initial events { link with reader := link.reader.notified } := by
  refine sound.still rfl (fun size under => ?_) fun size under => ?_
  · rw [Reader.notified_size?] at under
    exact sound.roomy size under
  · exact absurd under (link.reader.notified_ne_asleep size)

private theorem closed_of_final (sound : Sound initial events link) {before after : List Event}
    {size : Nat}
    (split : events = before ++ .returned size [] :: after) (room : 0 < size) :
    link.pipe.closed = true := by
  obtain ⟨-, atEnd⟩ := (sound.answers before size [] after split).dry room rfl
  rw [sound.atEnd, split]
  exact List.mem_append_left _ atEnd

/-- Something other than the end of a read happens. -/
theorem happened (sound : Sound initial events link) {event : Event} {next : Link}
    (other : ∀ size bytes, event ≠ .returned size bytes)
    (kept : delivered events ++ next.pipe.pending = initial ++ accepted (events ++ [event]))
    (atEnd : next.pipe.closed = true ↔ .ended ∈ events ++ [event])
    (settled : link.pipe.closed = true → next.pipe.pending = link.pipe.pending)
    (roomy : ∀ size, next.reader.size? = some size → 0 < size)
    (awake : ∀ size, next.reader ≠ .asleep size) : Sound initial (events ++ [event]) next where
  kept := by rw [delivered_append, delivered_of_ne other, List.append_nil, kept]
  atEnd := atEnd
  roomy := roomy
  asleep size under := absurd under (awake size)
  answers before size bytes after split := by
    obtain ⟨rest, -, earlier⟩ | ⟨-, -, same⟩ := append_event_cases split
    · exact sound.answers before size bytes rest earlier
    · exact absurd same.symm (other size bytes)
  final before size after split room := by
    obtain ⟨rest, rfl, earlier⟩ | ⟨-, -, same⟩ := append_event_cases split
    · obtain ⟨nothing, empty⟩ := sound.final before size rest earlier room
      rw [delivered_append, nothing, delivered_of_ne other]
      exact ⟨rfl, (settled (sound.closed_of_final earlier room)).trans empty⟩
    · exact absurd same.symm (other size [])

private theorem wrote (sound : Sound initial events link) (bytes : List UInt8) {next : Link}
    (pipe : next.pipe = link.pipe.write bytes)
    (roomy : ∀ size, next.reader.size? = some size → 0 < size)
    (awake : ∀ size, next.reader ≠ .asleep size) :
    Sound initial (events ++ [.wrote bytes]) next := by
  have atEnd := sound.atEnd
  have kept := sound.kept
  cases closed : link.pipe.closed with
  | true =>
    have same : next.pipe = link.pipe := by rw [pipe, Pipe.write, if_pos closed]
    have ended : .ended ∈ events := atEnd.mp closed
    refine sound.happened nofun ?_ ?_ (fun _ => by rw [same]) roomy awake
    · rw [same, accepted_append, if_pos ended, List.append_nil, kept]
    · simp [same, closed, ended]
  | false =>
    have going : .ended ∉ events := fun ended => by
      rw [atEnd.mpr ended] at closed
      cases closed
    refine sound.happened nofun ?_ ?_ (fun ended => ?_) roomy awake
    · rw [pipe, accepted_append, if_neg going, ← List.append_assoc, ← kept]
      simp [Pipe.write, closed, accepted]
    · simp [pipe, Pipe.write, closed, going]
    · rw [closed] at ended
      cases ended

theorem ended (sound : Sound initial events link) {next : Link} (pipe : next.pipe = link.pipe.close)
    (roomy : ∀ size, next.reader.size? = some size → 0 < size)
    (awake : ∀ size, next.reader ≠ .asleep size) : Sound initial (events ++ [.ended]) next := by
  refine sound.happened nofun ?_ ?_ (fun _ => by rw [pipe]; rfl) roomy awake
  · rw [pipe, accepted_append]
    simpa [accepted, Pipe.close] using sound.kept
  · simp [pipe, Pipe.close]

theorem returned (sound : Sound initial events link) {size : Nat} {next : Link}
    (pipe : next.pipe = (link.pipe.read size).1) (idle : next.reader = .idle)
    (answers : Answers link.pipe.pending (.ended ∈ events) size (link.pipe.read size).2) :
    Sound initial (events ++ [.returned size (link.pipe.read size).2]) next where
  kept := by
    rw [pipe, delivered_append, accepted_append]
    simpa [delivered, accepted, Pipe.read] using sound.kept
  atEnd := by
    rw [pipe]
    simpa [Pipe.read] using sound.atEnd
  roomy size under := by rw [idle] at under; cases under
  asleep size under := by rw [idle] at under; cases under
  answers before length bytes after split := by
    obtain ⟨rest, -, earlier⟩ | ⟨-, rfl, same⟩ := append_event_cases split
    · exact sound.answers before length bytes rest earlier
    · obtain ⟨rfl, rfl⟩ := Event.returned.inj same
      rw [sound.unread_eq]
      exact answers
  final before length after split room := by
    obtain ⟨rest, rfl, earlier⟩ | ⟨rfl, rfl, same⟩ := append_event_cases split
    · obtain ⟨nothing, empty⟩ := sound.final before length rest earlier room
      rw [delivered_append, nothing, pipe]
      simp [delivered, Pipe.read, empty]
    · obtain ⟨rfl, nothing⟩ := Event.returned.inj same
      obtain ⟨empty, -⟩ := answers.dry room nothing.symm
      rw [pipe]
      simp [delivered, Pipe.read, empty]

/-- A read that looks at the pipe comes back, or it goes to sleep because there is nothing
and more can come. -/
theorem look_cases (sound : Sound initial events link) {size : Nat}
    (looking : link.reader = .looking size) :
    (link.pipe.pending = [] ∧ link.pipe.closed = false ∧
        link.move .look = ({ link with reader := .asleep size }, none)) ∨
      (Answers link.pipe.pending (.ended ∈ events) size (link.pipe.read size).2 ∧
        link.move .look =
          ({ link with
              echo := { link.echo with pipe := (link.pipe.read size).1 }, reader := .idle },
            some (.returned size (link.pipe.read size).2))) := by
  have room : 0 < size := sound.roomy size (by rw [looking]; rfl)
  simp only [Link.move, looking]
  cases blocked : link.pipe.wouldBlock size with
  | true =>
    simp only [Pipe.wouldBlock, Bool.and_eq_true, Bool.not_eq_true', List.isEmpty_iff] at blocked
    exact .inl ⟨blocked.1.2, blocked.2, rfl⟩
  | false =>
    refine .inr ⟨.of_ready room fun empty => sound.atEnd.mp ?_, rfl⟩
    simpa [Pipe.wouldBlock, room, empty] using blocked

theorem move (sound : Sound initial events link) (move : Move) :
    Sound initial (events ++ (link.move move).2.toList) (link.move move).1 := by
  cases move with
  | takeReader =>
    simp only [Link.move, takeReader]
    split
    · next echo taken =>
      split
      · simpa using sound
      · split at taken
        · cases taken
        · obtain rfl := Except.ok.inj taken
          have opened : Sound initial events
              { link with echo := { link.echo with readerTaken := true } } :=
            sound.still rfl sound.roomy sound.asleep
          simpa using opened
    · simpa using sound
  | write bytes =>
    simp only [Link.move]
    split
    · simpa using sound
    · refine sound.wrote bytes rfl (fun size under => sound.roomy size ?_) fun size under => ?_
      · rw [← under]
        split
        · rfl
        · exact link.reader.notified_size?.symm
      · dsimp only at under
        split at under
        · next closed =>
          rw [(sound.asleep size under).2] at closed
          cases closed
        · exact link.reader.notified_ne_asleep size under
  | close =>
    simp only [Link.move]
    split
    · simpa using sound
    · exact sound.ended rfl sound.notified.roomy link.reader.notified_ne_asleep
  | drop =>
    simp only [Link.move]
    split
    · simpa using sound
    · exact sound.ended rfl sound.notified.roomy link.reader.notified_ne_asleep
  | read size =>
    simp only [Link.move]
    split
    · next free =>
      have idle : link.reader = .idle := by
        simp only [Bool.and_eq_true, decide_eq_true_eq] at free
        exact free.2
      split
      · have roomless : Answers link.pipe.pending (.ended ∈ events) 0 (link.pipe.read 0).2 :=
          .roomless_read _ _
        exact sound.returned rfl idle roomless
      · next some =>
        have room : 0 < size := Nat.pos_of_ne_zero some
        have begun : Sound initial events { link with reader := .looking size } :=
          sound.still rfl (fun length under => Option.some.inj under ▸ room) nofun
        simpa using begun
    · simpa using sound
  | look =>
    cases looking : link.reader with
    | idle => simpa [Link.move, looking] using sound
    | asleep size => simpa [Link.move, looking] using sound
    | looking size =>
      obtain ⟨empty, opened, slept⟩ | ⟨answers, back⟩ := sound.look_cases looking
      · rw [slept]
        have room := sound.roomy size (by rw [looking]; rfl)
        have waits : Sound initial events { link with reader := .asleep size } :=
          sound.still rfl (fun length under => Option.some.inj under ▸ room)
            fun _ _ => ⟨empty, opened⟩
        simpa using waits
      · rw [back]
        exact sound.returned rfl rfl answers
  | stir => simpa [Link.move] using sound.notified

theorem follow (sound : Sound initial events link) (moves : List Move) :
    Sound initial (events ++ (link.follow moves).2) (link.follow moves).1 := by
  induction moves generalizing events link with
  | nil => simpa [Link.follow] using sound
  | cons move rest ih =>
    have followed := ih (sound.move move)
    rw [List.append_assoc] at followed
    exact followed

end Sound

/-!
## Reads that are under way
-/

/-- How a read that is under way goes on, with a buffer of some size. -/
structure Responds (link : Link) (size : Nat) : Prop where
  waits : link.pipe.pending = [] → link.pipe.closed = false →
    (link.move .look).1.pipe = link.pipe ∧ (link.move .look).2 = none
  returns : link.pipe.pending ≠ [] ∨ link.pipe.closed = true →
    link.reader = .looking size ∧ ∃ bytes,
      (link.move .look).2 = some (.returned size bytes) ∧
        Answers link.pipe.pending (link.pipe.closed = true) size bytes

theorem Sound.responds {initial : List UInt8} {events : List Event} {link : Link}
    (sound : Sound initial events link) {size : Nat} (under : link.reader.size? = some size) :
    Responds link size := by
  cases stands : link.reader with
  | idle =>
    rw [stands] at under
    cases under
  | asleep length =>
    obtain ⟨empty, going⟩ := sound.asleep length stands
    refine ⟨fun _ _ => by simp [Link.move, stands], fun ready => ?_⟩
    obtain some | atEnd := ready
    · exact absurd empty some
    · rw [going] at atEnd
      cases atEnd
  | looking length =>
    rw [stands] at under
    obtain rfl := Option.some.inj under
    obtain ⟨empty, going, slept⟩ | ⟨answers, back⟩ := sound.look_cases stands
    · refine ⟨fun _ _ => by rw [slept]; exact ⟨rfl, rfl⟩, fun ready => ?_⟩
      obtain some | atEnd := ready
      · exact absurd empty some
      · rw [going] at atEnd
        cases atEnd
    · refine ⟨fun empty going => ?_, fun _ => ⟨stands, _, by rw [back], ?_⟩⟩
      · have room : 0 < length := sound.roomy length (by rw [stands]; rfl)
        have nothing : (link.pipe.read length).2 = [] := by
          rw [answers.first, empty, List.take_nil]
        rw [← sound.atEnd, going] at answers
        cases (answers.dry room nothing).2
      · rw [sound.atEnd]
        exact answers

/-- After any moves of the two threads, what was read and what still waits are together
what was there at first and what was written before the first end. A read comes back with
what comes next, with nothing only behind the last byte of a pipe that has ended, and never
with anything after that. A read that is under way goes on as soon as it can, and one without
room leaves everything where it is. -/
theorem loopback_lossless (text : String) (moves : List Move) :
    let reached := (Link.opened text).follow moves
    let pipe := reached.1.pipe
    delivered reached.2 ++ pipe.pending = Text.bytes text ++ accepted reached.2 ∧
      (pipe.closed = true ↔ .ended ∈ reached.2) ∧
      (∀ before size bytes after, reached.2 = before ++ .returned size bytes :: after →
        Answers (unread (Text.bytes text) before) (.ended ∈ before) size bytes ∧
          (0 < size → bytes = [] → delivered after = [] ∧ pipe.pending = [] ∧ pipe.closed = true)) ∧
      (∀ size, reached.1.reader.size? = some size → Responds reached.1 size) ∧
      (reached.1.move (.read 0)).1 = reached.1 := by
  intro reached pipe
  have sound : Sound (Text.bytes text) reached.2 reached.1 := (opened_sound text).follow moves
  refine ⟨sound.kept, sound.atEnd, fun before size bytes after split => ⟨?_, ?_⟩, ?_, ?_⟩
  · exact sound.answers before size bytes after split
  · rintro room rfl
    obtain ⟨nothing, empty⟩ := sound.final before size after split room
    exact ⟨nothing, empty, sound.closed_of_final split room⟩
  · exact fun size under => sound.responds under
  · simp only [Link.move, if_true]
    split <;> rfl

/-- A read falls asleep, is notified, and takes what its buffer has room for. The rest comes
before the end. -/
example :
    ((Link.opened "").follow
      [.takeReader, .read 2, .look, .write [1, 2, 3], .look, .close, .write [4], .read 2, .look,
        .read 2, .look]).2 =
      [.wrote [1, 2, 3], .returned 2 [1, 2], .ended, .wrote [4], .returned 2 [3],
        .returned 2 []] := by
  decide +kernel

end TtyFrame.Echo

import TtyFrame.Proofs.Screen.Feeding
import TtyFrame.Proofs.Screen.Obeying

/-! How output fills the history. Wherever the lexer stands, three cancel codes bring it to
rest. A reset then empties the history, and from the bottom line each line feed moves one line
into it until the limit is reached. So output can bring about every length up to the limit. -/

set_option autoImplicit false

namespace TtyFrame.Screen

private theorem Grid.size_trimHistory_eq (limit : Nat) (history : Array Row) :
    (trimHistory limit history).size = min history.size limit := by
  unfold trimHistory
  split
  · next within => exact (Nat.min_eq_left within).symm
  · next more =>
    rw [Array.size_extract]
    omega

private theorem Grid.scrollUp_cursor (grid : Grid) (region : Region) (count : Nat) :
    (grid.scrollUp region count).cursor = grid.cursor := by
  unfold scrollUp
  split
  · rfl
  · split <;> rfl

private theorem Grid.size_scrollUp_history {grid : Grid} {region : Region} (top : region.start = 0)
    {count : Nat} (within : count ≤ region.size) (tall : region.size ≤ grid.screen.size) :
    (grid.scrollUp region count).history.size = min (grid.history.size + count) grid.limit := by
  have leaving : min (min count region.size) grid.screen.size = count := by omega
  rw [scrollUp, if_pos top]
  dsimp only
  rw [size_trimHistory_eq, Array.size_append, Array.size_extract, leaving, Nat.sub_zero]

namespace Lexer

/-- The code that cancels a sequence. -/
def cancelByte : UInt8 := 0x18

/-- The lexer stands outside of sequences, between two characters. -/
structure Resting (lexer : Lexer) : Prop where
  ground : lexer.phase = .ground
  tail : lexer.tail = none

variable {lexer : Lexer}

private theorem step_ground (ground : lexer.phase = .ground) (byte : UInt8) :
    lexer.step byte = lexer.ground byte := by
  unfold step
  rw [ground]

private theorem step_resting (resting : lexer.Resting) (byte : UInt8) :
    lexer.step byte = lexer.groundStart byte := by
  rw [step_ground resting.ground, Lexer.ground, resting.tail]

private theorem ground_phase_cancel (ground : lexer.phase = .ground) :
    (lexer.ground cancelByte).1.phase = .ground := by
  unfold Lexer.ground
  split
  · exact ground
  · split
    · split
      · exact ground
      · exact ground
    · exact ground

private theorem step_phase_cancel (lexer : Lexer) : (lexer.step cancelByte).1.phase = .ground := by
  unfold step
  split
  · next ground => exact ground_phase_cancel ground
  all_goals rfl

/-- A character that has begun is over, unless it takes the code for its own; then it takes
none of the next. -/
theorem step_tail_cancel (ground : lexer.phase = .ground) :
    ∀ tail ∈ (lexer.step cancelByte).1.tail, tail.accepts cancelByte = false := by
  rw [step_ground ground]
  unfold Lexer.ground
  split
  · next none =>
    intro tail kept
    have same : lexer.tail = some tail := kept
    rw [none] at same
    cases same
  · split
    · split
      · exact nofun
      · rintro tail ⟨⟩
        rfl
    · exact nofun

private theorem step_cancel_resting (ground : lexer.phase = .ground)
    (refuses : ∀ tail ∈ lexer.tail, tail.accepts cancelByte = false) :
    (lexer.step cancelByte).1.Resting := by
  refine ⟨lexer.step_phase_cancel, ?_⟩
  rw [step_ground ground]
  unfold Lexer.ground
  split
  · next none => exact none
  · next tail some =>
    rw [if_neg (by rw [refuses tail some]; exact Bool.false_ne_true)]
    rfl

end Lexer

namespace Stream

/-- Three cancel codes bring every stream to rest: the first ends any sequence, and the next
two a character that has begun. -/
theorem cancelled (stream : Stream) (state : State) :
    let place := (List.replicate 3 Lexer.cancelByte).foldl feed (stream, state)
    place.1.lexer.Resting := by
  intro place
  have read : place.1.lexer = (((stream.lexer.step Lexer.cancelByte).1.step
      Lexer.cancelByte).1.step Lexer.cancelByte).1 := by
    simp only [place, List.replicate, List.foldl_cons, List.foldl_nil, feed, takeByte_lexer]
  rw [read]
  exact Lexer.step_cancel_resting (Lexer.step_phase_cancel _)
    (Lexer.step_tail_cancel (Lexer.step_phase_cancel _))

variable {stream : Stream}

theorem feed_lineFeed (resting : stream.lexer.Resting) (state : State) :
    feed (stream, state) 0x0A = (stream, state.lineFeed) := by
  have read : stream.lexer.step 0x0A = (stream.lexer, [.control 0x0A]) :=
    Lexer.step_resting resting 0x0A
  unfold feed takeByte
  rw [read]
  rfl

theorem feed_reset (resting : stream.lexer.Resting) (state : State) :
    ∃ next : Stream, next.lexer.Resting ∧
      [0x1B, 0x63].foldl feed (stream, state) = (next, state.reset) := by
  have opened : stream.lexer.step 0x1B = (stream.lexer.clear .escape, []) :=
    Lexer.step_resting resting 0x1B
  have ended : (stream.lexer.clear .escape).step 0x63 =
      ((stream.lexer.clear .escape).enter .ground, [.escape [] 0x63]) := rfl
  refine ⟨{ stream with lexer := (stream.lexer.clear .escape).enter .ground },
    ⟨rfl, resting.tail⟩, ?_⟩
  simp only [List.foldl_cons, List.foldl_nil, feed, takeByte, opened, ended]
  rfl

end Stream

namespace State

/-- What a number of line feeds makes of an empty screen: the cursor goes down to the bottom
line, and each line feed after that has moved a line into the history. -/
structure Fed (columns lines limit count : Nat) (state : State) : Prop where
  shaped : state.Shaped columns lines limit
  primary : state.modes.alternate = false
  region : state.region = ⟨0, lines⟩
  line : state.grid.cursor.line = min count (lines - 1)
  history : state.grid.history.size = min (count - (lines - 1)) limit

variable {columns lines limit : Nat} {state : State}

theorem Shaped.reset_fed (shaped : state.Shaped columns lines limit) :
    state.reset.Fed columns lines limit 0 where
  shaped := shaped.reset
  primary := rfl
  region := by
    have high := shaped.reset.grid.high
    unfold State.reset at high ⊢
    rw [← high]
    rfl
  line := (Nat.zero_min _).symm
  history := by
    rw [Nat.zero_sub, Nat.zero_min]
    rfl

private theorem lineFeed_above (above : state.grid.cursor.line + 1 < state.lines)
    (last : state.region.stop = state.lines) :
    state.lineFeed = state.onCursor ({ · with line := state.grid.cursor.line + 1 }) := by
  unfold lineFeed
  rw [last, if_neg (Nat.ne_of_lt above), if_pos above]

private theorem lineFeed_bottom (bottom : state.grid.cursor.line + 1 = state.region.stop)
    (some : 0 < state.region.size) :
    state.lineFeed = state.onGrid (·.scrollUp state.region 1) := by
  have one : min 1 state.region.size = 1 := Nat.min_eq_left some
  unfold lineFeed
  rw [if_pos bottom, scrollUpFrom, one]

theorem Fed.lineFeed {count : Nat} (fed : state.Fed columns lines limit count)
    (tall : 0 < lines) : state.lineFeed.Fed columns lines limit (count + 1) := by
  have shaped := fed.shaped.lineFeed
  have high : state.lines = lines := fed.shaped.grid.high
  have line := fed.line
  have history := fed.history
  have stop : state.region.stop = lines := by rw [fed.region]
  by_cases above : count < lines - 1
  · have inside : state.grid.cursor.line + 1 < state.lines := by omega
    rw [lineFeed_above inside (stop.trans high.symm)] at shaped ⊢
    refine ⟨shaped, fed.primary, fed.region, ?_, ?_⟩
    · show state.grid.cursor.line + 1 = _
      omega
    · show state.grid.history.size = _
      omega
  · have bottom : state.grid.cursor.line + 1 = state.region.stop := by omega
    have size : state.region.size = lines := by
      rw [fed.region]
      rfl
    have top : state.region.start = 0 := by rw [fed.region]
    have limited : state.grid.limit = limit := by
      rw [fed.shaped.grid.limited, fed.primary]
      rfl
    have tall : state.region.size = state.grid.screen.size :=
      size.trans fed.shaped.grid.full.symm
    have scrolled : (state.grid.scrollUp state.region 1).history.size = _ :=
      Grid.size_scrollUp_history top (by omega) (Nat.le_of_eq tall)
    have cursor := state.grid.scrollUp_cursor state.region 1
    rw [lineFeed_bottom bottom (by omega)] at shaped ⊢
    refine ⟨shaped, fed.primary, fed.region, ?_, ?_⟩
    · show (state.grid.scrollUp state.region 1).cursor.line = _
      rw [cursor]
      omega
    · show (state.grid.scrollUp state.region 1).history.size = _
      rw [scrolled, limited]
      omega

private theorem Fed.lineFeeds {stream : Stream} (resting : stream.lexer.Resting) {count : Nat}
    (fed : state.Fed columns lines limit count) (tall : 0 < lines) (more : Nat) :
    ((List.replicate more 0x0A).foldl feed (stream, state)).2.Fed columns lines limit
      (count + more) := by
  induction more generalizing state count with
  | zero => exact fed
  | succ more ih =>
    rw [List.replicate_succ, List.foldl_cons, Stream.feed_lineFeed resting]
    have later := ih (fed.lineFeed tall)
    rwa [Nat.add_right_comm] at later

/-- Output that makes the history of a screen with so many lines so long. -/
def fillBytes (lines length : Nat) : List UInt8 :=
  List.replicate 3 Lexer.cancelByte ++ [0x1B, 0x63] ++ List.replicate (lines - 1 + length) 0x0A

/-- Within the limit there is no length that output could not give to the history. -/
theorem Shaped.takeBytes_fillBytes (shaped : state.Shaped columns lines limit) (tall : 0 < lines)
    (stream : Stream) {length : Nat} (within : length ≤ limit) :
    (Screen.takeBytes stream state (fillBytes lines length)).2.1.grid.history.size = length := by
  -- Up to the reset nothing matters but that the grids have their shape and the lexer rests.
  let paused := Screen.takeBytes stream state (List.replicate 3 Lexer.cancelByte)
  have placed : (List.replicate 3 Lexer.cancelByte).foldl feed (stream, state) =
      (paused.1, paused.2.1) := foldl_feed ..
  have kept : paused.2.1.Shaped columns lines limit :=
    shaped.takeBytes stream (List.replicate 3 Lexer.cancelByte)
  have resting : paused.1.lexer.Resting := by
    have rests := stream.cancelled state
    rwa [placed] at rests
  obtain ⟨next, ready, emptied⟩ := Stream.feed_reset resting paused.2.1
  have fed := kept.reset_fed.lineFeeds ready tall (lines - 1 + length)
  have filled : (Screen.takeBytes stream state (fillBytes lines length)).2.1 =
      ((List.replicate (lines - 1 + length) 0x0A).foldl feed (next, paused.2.1.reset)).2 := by
    rw [← emptied, ← placed, ← List.foldl_append, ← List.foldl_append, foldl_feed]
    rfl
  rw [filled, fed.history]
  omega

end State

end TtyFrame.Screen

import TtyFrame.Proofs.Scroll.Script
import TtyFrame.Proofs.Scroll.Pixels

/-! Drags within the history lose no distance and count none twice. What they pulled is what
the view moved by and what is left of a line. -/

set_option autoImplicit false

namespace TtyFrame.Scroll

/-- A motion of a gesture: a drag, or a turn of the direction that drags scroll in. -/
inductive Motion (α : Type) where
  | drag (delta : α)
  | setReverse (reverse : Bool)

/-- The call that makes a motion over lines of a height. -/
def Motion.call {α : Type} (height : α) : Motion α → Call α
  | .drag delta => .drag delta height
  | .setReverse reverse => .setReverse reverse

namespace State

variable {α : Type} [Distance α]

/-- Makes the motions of a gesture in order. -/
def perform (state : State α) (height : α) (motions : List (Motion α)) : State α :=
  state.follow (motions.map (Motion.call height))

end State

namespace Exact

variable {α : Type} [Distance α] (exact : Exact α)

/-- The distance that a gesture pulls in all, where a reversed drag pulls the other way. -/
def pulled : Bool → List (Motion α) → Rat
  | _, [] => 0
  | reverse, .drag delta :: rest =>
      (if reverse then -exact.value delta else exact.value delta) + pulled reverse rest
  | _, .setReverse reverse :: rest => pulled reverse rest

/-- What is left of a line and what a drag adds. -/
def total (state : State α) (delta : α) : Rat :=
  exact.value state.remainder + exact.value (state.directed delta)

/-- The line that a drag would take the top row to if the buffer had no ends. -/
def landing (state : State α) (height delta : α) : Int :=
  state.origin - truncate (exact.total state delta / exact.value height)

/-- A drag that is computed without rounding and does not go past either end of the
history. -/
structure Carries (height : α) (state : State α) (delta : α) : Prop where
  held : exact.held delta
  fits : exact.fits (exact.total state delta)
  oldest : -(state.history : Int) ≤ exact.landing state height delta
  live : exact.landing state height delta ≤ 0

/-- Every drag of a gesture carries in the state that it finds. -/
def CarriesAll (height : α) : State α → List (Motion α) → Prop
  | _, [] => True
  | state, .drag delta :: rest =>
      exact.Carries height state delta ∧ CarriesAll height (state.drag delta height).1 rest
  | state, .setReverse reverse :: rest => CarriesAll height (state.setReverse reverse) rest

/-- A state that exact drags scroll. -/
structure Ready (height : α) (state : State α) : Prop where
  inRange : state.InRange
  primary : state.alternate = false
  short : state.history ≤ 2 ^ 24
  held : exact.held state.remainder
  below : |exact.value state.remainder| < exact.value height

/-- The distance that the view moved by from one state to another, with what is left of a
line. -/
def covered (height : α) (before after : State α) : Rat :=
  exact.value height * (before.origin - after.origin) +
    exact.value after.remainder - exact.value before.remainder

variable {exact} {height : α} {state : State α}

private theorem directed_held {delta : α} (held : exact.held delta) :
    exact.held (state.directed delta) := by
  unfold State.directed
  split
  · exact (exact.neg held).1
  · exact held

private theorem value_directed {delta : α} (held : exact.held delta) :
    exact.value (state.directed delta) =
      if state.reverse then -exact.value delta else exact.value delta := by
  unfold State.directed
  split
  · exact (exact.neg held).2
  · rfl

private theorem covered_trans (first second third : State α) :
    exact.covered height first second + exact.covered height second third =
      exact.covered height first third := by
  unfold covered
  ring

private theorem CarriesAll.of_append {made unmade : List (Motion α)}
    (carries : exact.CarriesAll height state (made ++ unmade)) :
    exact.CarriesAll height state made := by
  induction made generalizing state with
  | nil => trivial
  | cons motion rest ih =>
    cases motion with
    | drag delta => exact ⟨carries.1, ih carries.2⟩
    | setReverse reverse =>
      have later : exact.CarriesAll height (state.setReverse reverse) (rest ++ unmade) := carries
      exact ih later

omit [Distance α] in
private theorem moveBy_line (remainder : α) {line : Int} (inRange : state.InRange)
    (short : state.history ≤ 2 ^ 24) (oldest : -(state.history : Int) ≤ line) (live : line ≤ 0) :
    { state with remainder }.moveBy
        (saturate (-(max (-(state.reach : Int)) (min state.reach (state.origin - line))))) =
      { state with remainder, origin := line } := by
  obtain ⟨least, most⟩ := inRange
  have origin : clampOrigin (saturate (state.origin +
      saturate (-(max (-(state.reach : Int)) (min state.reach (state.origin - line))))))
        state.history = line := by
    unfold clampOrigin saturate State.reach maxReach at *
    omega
  change { state with remainder, origin := clampOrigin _ _ } = _
  rw [origin]

section

variable (heightHeld : exact.held height) (positive : 0 < exact.value height)
include heightHeld positive

/-- A drag that carries lands where it would land in a buffer without ends, and keeps what
is left of a line. -/
theorem drag_eq {delta : α} (ready : exact.Ready height state)
    (carries : exact.Carries height state delta) :
    (state.drag delta height).1 =
      { state with
        origin := exact.landing state height delta
        remainder := Distance.remainder
          (Distance.add state.remainder (state.directed delta)) height } := by
  obtain ⟨held, sum⟩ := exact.add ready.held (directed_held carries.held) carries.fits
  have taken : (state.alternate || !Distance.isFinite delta || !Distance.isFinite height ||
      !Distance.isPositive height) = false := by
    rw [ready.primary, exact.finite carries.held, exact.finite heightHeld,
      exact.positive heightHeld positive]
    rfl
  have lines : truncate (exact.value (Distance.add state.remainder (state.directed delta)) /
      exact.value height) = state.origin - exact.landing state height delta := by
    rw [landing, total, sum, sub_sub_cancel]
  have none := exact.isZero held heightHeld positive
  have reach : state.reach ≤ 2 ^ 24 := (Nat.min_le_left ..).trans ready.short
  have moved := exact.toLines held heightHeld positive reach
  rw [lines] at none moved
  simp only [State.drag, taken, exact.finite held, Bool.not_true, Bool.false_eq_true, if_false]
  split
  · next still =>
    rw [← sub_eq_zero.mp (none.mp still)]
  · rw [moved]
    exact moveBy_line _ ready.inRange ready.short carries.oldest carries.live

theorem Ready.drag {delta : α} (ready : exact.Ready height state)
    (carries : exact.Carries height state delta) :
    exact.Ready height (state.drag delta height).1 ∧
      exact.covered height state (state.drag delta height).1 =
        if state.reverse then -exact.value delta else exact.value delta := by
  obtain ⟨held, sum⟩ := exact.add ready.held (directed_held carries.held) carries.fits
  obtain ⟨leftHeld, left⟩ := exact.remainder held heightHeld positive
  have inRange := (State.drag_moves state delta height).inRange ready.inRange
  rw [drag_eq heightHeld positive ready carries] at inRange ⊢
  refine ⟨⟨inRange, ready.primary, ready.short, leftHeld, ?_⟩, ?_⟩
  · change |exact.value (Distance.remainder _ _)| < _
    rw [left]
    exact abs_sub_mul_truncate_lt positive _
  · change exact.value height * (state.origin - (exact.landing state height delta : Int)) +
      exact.value (Distance.remainder _ _) - exact.value state.remainder = _
    rw [← value_directed carries.held, left, sum, landing, total, Int.cast_sub]
    ring

theorem Ready.perform {motions : List (Motion α)} (ready : exact.Ready height state)
    (carries : exact.CarriesAll height state motions) :
    exact.Ready height (state.perform height motions) ∧
      exact.covered height state (state.perform height motions) =
        exact.pulled state.reverse motions := by
  induction motions generalizing state with
  | nil =>
    refine ⟨ready, ?_⟩
    change exact.covered height state state = 0
    unfold covered
    ring
  | cons motion rest ih =>
    cases motion with
    | drag delta =>
      obtain ⟨dragged, first⟩ := ready.drag heightHeld positive carries.1
      obtain ⟨performed, others⟩ := ih dragged carries.2
      refine ⟨performed, ?_⟩
      rw [(State.drag_moves state delta height).reverse] at others
      change exact.covered height state ((state.drag delta height).1.perform height rest) =
        _ + exact.pulled state.reverse rest
      rw [← first, ← others, covered_trans]
    | setReverse reverse =>
      -- A turn moves nothing, and what is pulled from then on is pulled the new way.
      have turned : exact.Ready height (state.setReverse reverse) := { ready with }
      exact ih turned carries

end

/-- After any part of a gesture on the primary screen, the lines that the view moved by and
what is left of a line make up the distance that the drags pulled, and less than a line is
left. No drag may go past either end of the history, whose lines the numbers can count. The
numbers are any without rounding: rational ones, or single-precision ones of whole pixels. -/
theorem drags_conserve (exact : Exact α) {height : α} {before : State α}
    {motions : List (Motion α)} (reached : ∃ calls, (State.initial : State α).follow calls = before)
    (primary : before.alternate = false) (short : before.history ≤ 2 ^ 24)
    (heightHeld : exact.held height) (positive : 0 < exact.value height)
    (held : exact.held before.remainder)
    (below : |exact.value before.remainder| < exact.value height)
    (carries : exact.CarriesAll height before motions) :
    ∀ made, made <+: motions →
      let after := before.perform height made
      exact.value height * (before.origin - after.origin) +
          exact.value after.remainder - exact.value before.remainder =
        exact.pulled before.reverse made ∧
      |exact.value after.remainder| < exact.value height := by
  rintro made ⟨unmade, rfl⟩
  have inRange : before.InRange := by
    obtain ⟨calls, rfl⟩ := reached
    exact (State.initial_sound.follow calls).inRange
  obtain ⟨performed, covers⟩ := Ready.perform heightHeld positive
    ⟨inRange, primary, short, held, below⟩ carries.of_append
  exact ⟨covers, performed.below⟩

/-- Single-precision drags over lines of twenty pixels: two that make more than a line, then
one with the direction turned that makes three lines more, and a bit back. -/
theorem drags_conserve_turned :
    let motions : List (Motion Float32) :=
      [.drag 15, .drag 17, .setReverse true, .drag (-65), .drag 3]
    let before : State Float32 := State.initial.setHistory 100
    let after := before.perform 20 motions
    (after.origin = -4 ∧ Exact.pixels.value after.remainder = 14) ∧
      20 * ((before.origin : Rat) - after.origin) +
          Exact.pixels.value after.remainder - Exact.pixels.value before.remainder =
        Exact.pixels.pulled false motions := by
  intro motions before after
  refine ⟨by decide +kernel, ?_⟩
  have height : Exact.pixels.held 20 :=
    pixels_held .positive (by decide : 20 ≤ _) (by decide +kernel)
  have still : Exact.pixels.held before.remainder :=
    pixels_held .positive (by decide : 0 ≤ _) (by decide +kernel)
  have carries : Exact.pixels.CarriesAll 20 before motions := by
    refine ⟨⟨pixels_held .positive (by decide : 15 ≤ _) ?_, pixels_fits.mpr ?_, ?_, ?_⟩,
      ⟨pixels_held .positive (by decide : 17 ≤ _) ?_, pixels_fits.mpr ?_, ?_, ?_⟩,
      ⟨pixels_held .negative (by decide : 65 ≤ _) ?_, pixels_fits.mpr ?_, ?_, ?_⟩,
      ⟨pixels_held .positive (by decide : 3 ≤ _) ?_, pixels_fits.mpr ?_, ?_, ?_⟩, trivial⟩ <;>
      decide +kernel
  have twenty : Exact.pixels.value 20 = 20 := by decide +kernel
  have conserved := (drags_conserve Exact.pixels ⟨[.setHistory 100], rfl⟩ rfl (by decide) height
    (by decide +kernel) still (by decide +kernel) carries motions List.prefix_rfl).1
  rw [twenty] at conserved
  exact conserved

end Exact

end TtyFrame.Scroll

import TtyFrame.Proofs.Screen.Reshaping
import TtyFrame.Screen.Output

/-! Whatever a program writes, both grids stay of the size of the screen, and the primary
one keeps its history within the limit. The alternate one has no history. A resize keeps
them so if it leaves room for a wide glyph. -/

set_option autoImplicit false

namespace TtyFrame.Screen

private theorem Modes.setPublic_alternate (modes : Modes) (number : Nat) (on : Bool) :
    (modes.setPublic number on).alternate = modes.alternate := by
  unfold setPublic
  split <;> rfl

private theorem Modes.setPrivate_alternate (modes : Modes) (number : Nat) (on : Bool) :
    (modes.setPrivate number on).alternate = modes.alternate := by
  cases on <;> (unfold setPrivate; split <;> rfl)

namespace State

/-!
## Operating system commands

They change nothing but colours and the pointer.
-/

section Command

private theorem colorField_fst (state : State) (slot : Nat) (name : String) (bell : Bool)
    (value : List UInt8) :
    ∃ overrides, (state.colorField slot name bell value).1 = { state with overrides } := by
  unfold colorField
  split
  · exact ⟨_, rfl⟩
  · exact ⟨state.overrides, rfl⟩

private theorem indexedColors_fst (state : State) (bell : Bool) (fields : List (List UInt8)) :
    ∃ overrides, (state.indexedColors bell fields).1 = { state with overrides } := by
  fun_induction indexedColors state bell fields with
  | case1 state index value rest next replies found last more ends ih =>
    obtain ⟨own, colored⟩ : ∃ overrides, next = { state with overrides } := by
      obtain rfl : _ = next := congrArg Prod.fst found
      split
      · exact state.colorField_fst ..
      · exact ⟨state.overrides, rfl⟩
    obtain ⟨overrides, followed⟩ := ih
    rw [ends, colored] at followed
    exact ⟨overrides, followed⟩
  | case2 => exact ⟨_, rfl⟩

private theorem dynamicColors_fst (state : State) (bell : Bool) (number : Nat)
    (fields : List (List UInt8)) :
    ∃ overrides, (state.dynamicColors bell number fields).1 = { state with overrides } := by
  fun_induction dynamicColors state bell number fields with
  | case1 => exact ⟨_, rfl⟩
  | case2 state number value rest few next replies found last more ends ih =>
    obtain ⟨own, colored⟩ : ∃ overrides, next = { state with overrides } := by
      obtain rfl : _ = next := congrArg Prod.fst found
      exact state.colorField_fst ..
    obtain ⟨overrides, followed⟩ := ih
    rw [ends, colored] at followed
    exact ⟨overrides, followed⟩
  | case3 => exact ⟨_, rfl⟩

private theorem resetColors_eq (state : State) (indices : List (List UInt8)) :
    ∃ overrides, state.resetColors indices = { state with overrides } := by
  refine List.foldlRecOn (motive := fun next => ∃ overrides, next = { state with overrides })
    indices _ ⟨state.overrides, rfl⟩ ?_
  rintro next ⟨overrides, rfl⟩ index -
  split
  · exact ⟨_, rfl⟩
  · exact ⟨_, rfl⟩

private theorem forgetColors_eq (state : State) (indices : List (List UInt8)) :
    ∃ overrides, state.forgetColors indices = { state with overrides } := by
  unfold forgetColors
  split
  · exact ⟨_, rfl⟩
  · exact state.resetColors_eq indices

private theorem shapePointer_eq (state : State) (value : List UInt8) :
    ∃ pointer, state.shapePointer value = { state with pointer } := by
  unfold shapePointer
  extract_lets name
  split
  · split
    · exact ⟨_, rfl⟩
    · exact ⟨state.pointer, rfl⟩
  · exact ⟨state.pointer, rfl⟩

theorem command_fst (state : State) (fields : List (List UInt8)) (bell : Bool) :
    ∃ overrides pointer, (state.command fields bell).1 = { state with overrides, pointer } := by
  have colored {next : State} (changed : ∃ overrides, next = { state with overrides }) :
      ∃ overrides pointer, next = { state with overrides, pointer } := by
    obtain ⟨overrides, rfl⟩ := changed
    exact ⟨overrides, state.pointer, rfl⟩
  unfold command
  extract_lets rest
  split
  · split
    · exact colored (state.indexedColors_fst bell rest)
    · exact ⟨state.overrides, state.pointer, rfl⟩
  · exact colored (state.dynamicColors_fst bell 10 rest)
  · exact colored (state.dynamicColors_fst bell 11 rest)
  · exact colored (state.dynamicColors_fst bell 12 rest)
  · obtain ⟨pointer, shapes⟩ := state.shapePointer_eq (rest.headD [])
    exact ⟨state.overrides, pointer, shapes⟩
  · exact colored (state.forgetColors_eq rest)
  · exact ⟨_, state.pointer, rfl⟩
  · exact ⟨_, state.pointer, rfl⟩
  · exact ⟨_, state.pointer, rfl⟩
  · exact ⟨state.overrides, state.pointer, rfl⟩

end Command

/-!
## The shape of a screen
-/

structure Shaped (columns lines limit : Nat) (state : State) : Prop where
  grid : state.grid.Shaped columns lines (if state.modes.alternate then 0 else limit)
  other : state.other.Shaped columns lines (if state.modes.alternate then limit else 0)
  region : state.region.stop ≤ lines

theorem blank_shaped (columns lines limit : Nat) (pointer : PointerStyle) :
    (blank columns lines limit pointer).Shaped columns lines limit :=
  ⟨Grid.blank_shaped .., Grid.blank_shaped .., Nat.le_refl _⟩

namespace Shaped

variable {columns lines limit : Nat} {state : State}

theorem onGrid (shaped : state.Shaped columns lines limit) {change : Grid → Grid}
    (keeps : ∀ {kept}, state.grid.Shaped columns lines kept →
      (change state.grid).Shaped columns lines kept) :
    (state.onGrid change).Shaped columns lines limit :=
  { shaped with grid := keeps shaped.grid }

theorem onCursor (shaped : state.Shaped columns lines limit)
    (change : GridCursor → GridCursor) : (state.onCursor change).Shaped columns lines limit :=
  shaped.onGrid fun grid => { grid with }

theorem quietly (shaped : state.Shaped columns lines limit) :
    state.quietly.1.Shaped columns lines limit := shaped

theorem resize (shaped : state.Shaped columns lines limit) {nextColumns : Nat}
    (two : 1 < nextColumns) (nextLines : Nat) :
    (state.resize nextColumns nextLines).Shaped nextColumns nextLines limit := by
  unfold State.resize
  split
  · next same =>
    obtain ⟨rfl, rfl⟩ := same
    rw [State.columns, State.lines, shaped.grid.wide, shaped.grid.high]
    exact shaped
  · exact ⟨shaped.grid.resize _ two _, shaped.other.resize _ two _, Nat.le_refl _⟩

/-!
## Lines and characters
-/

theorem scrollUpFrom (shaped : state.Shaped columns lines limit) (start count : Nat) :
    (state.scrollUpFrom start count).Shaped columns lines limit := by
  have within : (⟨start, state.region.stop⟩ : Region).stop ≤ lines := shaped.region
  exact shaped.onGrid fun grid => grid.scrollUp within _

theorem scrollDownFrom (shaped : state.Shaped columns lines limit) (start count : Nat) :
    (state.scrollDownFrom start count).Shaped columns lines limit := by
  unfold State.scrollDownFrom
  have within : (⟨start, state.region.stop⟩ : Region).stop ≤ lines := shaped.region
  exact shaped.onGrid fun grid => grid.scrollDown within _

theorem lineFeed (shaped : state.Shaped columns lines limit) :
    state.lineFeed.Shaped columns lines limit := by
  unfold State.lineFeed
  extract_lets next
  split
  · exact shaped.scrollUpFrom _ _
  · split
    · exact shaped.onCursor _
    · exact shaped

theorem wrapLine (shaped : state.Shaped columns lines limit) :
    state.wrapLine.Shaped columns lines limit := by
  unfold State.wrapLine
  split
  · exact shaped
  · extract_lets marked line moved
    have marks : marked.Shaped columns lines limit :=
      shaped.onGrid fun grid => grid.modifyCursorGlyph _ _
    have moves : moved.Shaped columns lines limit := by
      unfold moved
      split
      · exact marks.lineFeed
      · exact marks.onCursor _
    exact moves.onCursor _

theorem putGlyph (shaped : state.Shaped columns lines limit) (c : Char) (layout : Layout) :
    (state.putGlyph c layout).Shaped columns lines limit :=
  shaped.onGrid fun grid => grid.clearHalf.modifyCursorGlyph _ _

theorem shiftRight (shaped : state.Shaped columns lines limit) (width : Nat) :
    (state.shiftRight width).Shaped columns lines limit := by
  unfold State.shiftRight
  extract_lets column
  split
  · refine shaped.onGrid fun grid => grid.modifyRow _ fun row => ?_
    refine List.foldlRecOn (motive := fun cells : Array Glyph => cells.size = row.size) _ _ rfl ?_
    intro cells size offset _
    exact Array.size_swapIfInBounds.trans size
  · exact shaped

theorem putWide (shaped : state.Shaped columns lines limit) (c : Char) :
    (state.putWide c).Shaped columns lines limit := by
  unfold State.putWide
  extract_lets left right
  have lefts : left.Shaped columns lines limit := shaped.putGlyph _ _
  have rights : right.Shaped columns lines limit := lefts.onCursor _
  exact (rights.putGlyph _ _).onCursor _

theorem printWide (shaped : state.Shaped columns lines limit) (c : Char) :
    (state.printWide c).Shaped columns lines limit := by
  unfold State.printWide
  split
  · exact shaped.putWide c
  · split
    · exact (shaped.putGlyph _ _).wrapLine.putWide c
    · exact shaped.onCursor _

theorem print (shaped : state.Shaped columns lines limit) (c : Char) :
    (state.print c).Shaped columns lines limit := by
  unfold State.print
  split
  · exact shaped
  · exact shaped.onGrid fun grid => grid.modifyCursorGlyph _ _
  · extract_lets wrapped shifted
    have wraps : wrapped.Shaped columns lines limit := by
      unfold wrapped
      split
      · exact shaped.wrapLine
      · exact shaped
    have shifts : shifted.Shaped columns lines limit := wraps.shiftRight _
    split
    · exact (shifts.putGlyph _ _).onCursor _
    · exact shifts.printWide c

/-!
## Control characters and modes
-/

theorem goto (shaped : state.Shaped columns lines limit) (line : Int) (column : Nat) :
    (state.goto line column).Shaped columns lines limit := by
  unfold State.goto
  exact shaped.onCursor _

theorem backspace (shaped : state.Shaped columns lines limit) :
    state.backspace.Shaped columns lines limit := by
  unfold State.backspace
  split
  · exact shaped.onCursor _
  · exact shaped

theorem tab (shaped : state.Shaped columns lines limit) :
    state.tab.Shaped columns lines limit := by
  unfold State.tab
  split
  · exact shaped.wrapLine
  · extract_lets marked
    have marks : marked.Shaped columns lines limit :=
      shaped.onGrid fun grid => grid.modifyCursorGlyph _ _
    exact marks.onCursor _

theorem reverseIndex (shaped : state.Shaped columns lines limit) :
    state.reverseIndex.Shaped columns lines limit := by
  unfold State.reverseIndex
  split
  · exact shaped.scrollDownFrom _ _
  · exact shaped.onCursor _

theorem setRegion (shaped : state.Shaped columns lines limit) (top : Nat) (bottom : Option Nat) :
    (state.setRegion top bottom).Shaped columns lines limit := by
  unfold State.setRegion
  extract_lets last
  split
  · exact shaped
  · have within : min last state.lines ≤ lines :=
      Nat.le_trans (Nat.min_le_right ..) (Nat.le_of_eq shaped.grid.high)
    have narrowed : Shaped columns lines limit
        { state with region := ⟨min (top - 1) state.lines, min last state.lines⟩ } :=
      { shaped with region := within }
    exact narrowed.goto 0 0

theorem control (shaped : state.Shaped columns lines limit) (byte : UInt8) :
    (state.control byte).Shaped columns lines limit := by
  unfold State.control
  split
  · exact shaped.backspace
  · exact shaped.tab
  · exact shaped.lineFeed
  · exact shaped.lineFeed
  · exact shaped.lineFeed
  · exact shaped.onCursor _
  · exact shaped

theorem reset (shaped : state.Shaped columns lines limit) :
    state.reset.Shaped columns lines limit := by
  have grid := shaped.grid
  have other := shaped.other
  unfold State.reset
  cases on : state.modes.alternate with
  | false =>
    rw [on] at grid other
    exact ⟨grid.reset, other.reset, Nat.le_of_eq grid.high⟩
  | true =>
    rw [on] at grid other
    exact ⟨other.reset, grid.reset, Nat.le_of_eq other.high⟩

theorem swapScreens (shaped : state.Shaped columns lines limit) :
    state.swapScreens.Shaped columns lines limit := by
  have grid := shaped.grid
  have other := shaped.other
  unfold State.swapScreens
  cases on : state.modes.alternate with
  | false =>
    rw [on] at grid other
    have cleared : Grid.Shaped columns lines 0 { state.other with cursor := state.grid.cursor } :=
      { other with }
    exact ⟨cleared.resetLines _, { grid with }, shaped.region⟩
  | true =>
    rw [on] at grid other
    exact ⟨other, grid, shaped.region⟩

theorem setPrivateMode (shaped : state.Shaped columns lines limit) (on : Bool) (number : Nat) :
    (state.setPrivateMode on number).Shaped columns lines limit := by
  unfold State.setPrivateMode
  extract_lets switched
  have switches : switched.Shaped columns lines limit := by
    constructor
    · rw [Modes.setPrivate_alternate]
      exact shaped.grid
    · rw [Modes.setPrivate_alternate]
      exact shaped.other
    · exact shaped.region
  split
  · exact (shaped.setRegion _ _).onGrid fun grid => grid.resetLines _
  · split
    · exact switches.goto 0 0
    · exact switches
  · exact { shaped with }
  · split
    · exact shaped
    · exact shaped.swapScreens
  · exact switches

/-!
## Control sequences
-/

theorem eraseScreen (shaped : state.Shaped columns lines limit) (kind : Nat) :
    (state.eraseScreen kind).Shaped columns lines limit := by
  unfold State.eraseScreen
  split
  · exact shaped.onGrid fun grid => grid.eraseBelow
  · exact shaped.onGrid fun grid => grid.eraseAbove
  · refine shaped.onGrid fun grid => ?_
    split
    · exact grid.resetLines _
    · exact grid.clearViewport
  · exact shaped.onGrid fun grid => grid.clearHistory
  · exact shaped

theorem eraseLine (shaped : state.Shaped columns lines limit) (kind : Nat) :
    (state.eraseLine kind).Shaped columns lines limit := by
  unfold State.eraseLine
  split
  · exact shaped.onGrid fun grid => grid.eraseRight
  · exact shaped.onGrid fun grid => grid.eraseColumns _ _
  · exact shaped.onGrid fun grid => grid.eraseColumns _ _
  · exact shaped

theorem deleteLines (shaped : state.Shaped columns lines limit) (count : Nat) :
    (state.deleteLines count).Shaped columns lines limit := by
  unfold State.deleteLines
  extract_lets line fewer
  split
  · exact shaped.scrollUpFrom _ _
  · exact shaped

theorem insertLines (shaped : state.Shaped columns lines limit) (count : Nat) :
    (state.insertLines count).Shaped columns lines limit := by
  unfold State.insertLines
  extract_lets line
  split
  · exact shaped.scrollDownFrom _ _
  · exact shaped

theorem clearTabs (shaped : state.Shaped columns lines limit) (kind : Nat) :
    (state.clearTabs kind).Shaped columns lines limit := by
  unfold State.clearTabs
  split
  · exact { shaped with }
  · exact { shaped with }
  · exact shaped

theorem setPointer (shaped : state.Shaped columns lines limit) (number : Nat) :
    (state.setPointer number).Shaped columns lines limit := by
  unfold State.setPointer
  split
  · exact { shaped with }
  · exact shaped

theorem setPublicMode (shaped : state.Shaped columns lines limit) (on : Bool) (number : Nat) :
    (state.setPublicMode on number).Shaped columns lines limit := by
  unfold State.setPublicMode
  constructor
  · rw [Modes.setPublic_alternate]
    exact shaped.grid
  · rw [Modes.setPublic_alternate]
    exact shaped.other
  · exact shaped.region

theorem setPublicModes (shaped : state.Shaped columns lines limit) (on : Bool)
    (numbers : List Nat) :
    (numbers.foldl (·.setPublicMode on) state).Shaped columns lines limit :=
  List.foldlRecOn numbers _ shaped fun _ kept number _ => kept.setPublicMode on number

theorem setPrivateModes (shaped : state.Shaped columns lines limit) (on : Bool)
    (numbers : List Nat) :
    (numbers.foldl (·.setPrivateMode on) state).Shaped columns lines limit :=
  List.foldlRecOn numbers _ shaped fun _ kept number _ => kept.setPrivateMode on number

theorem reportStatus (shaped : state.Shaped columns lines limit) (kind : Nat) :
    (state.reportStatus kind).1.Shaped columns lines limit := by
  unfold State.reportStatus
  split <;> exact shaped

theorem reportSize (shaped : state.Shaped columns lines limit) (kind : Nat) :
    (state.reportSize kind).1.Shaped columns lines limit := by
  unfold State.reportSize
  split <;> exact shaped

theorem plainSequence (shaped : state.Shaped columns lines limit) (arguments : Arguments)
    (final : Char) : (state.plainSequence arguments final).1.Shaped columns lines limit := by
  unfold State.plainSequence
  extract_lets first count
  split
  · exact quietly (shaped.onGrid fun grid => grid.insertCount _)
  · exact quietly (shaped.goto _ _)
  · exact quietly (shaped.goto _ _)
  · exact quietly (shaped.goto _ _)
  · exact quietly (shaped.onCursor _)
  · exact quietly (shaped.onCursor _)
  · split <;> exact shaped
  · exact quietly (shaped.onCursor _)
  · exact quietly (shaped.goto _ _)
  · exact quietly (shaped.goto _ _)
  · exact quietly (shaped.goto _ _)
  · exact quietly (shaped.goto _ _)
  · exact quietly (shaped.goto _ _)
  · exact quietly (shaped.clearTabs _)
  · exact quietly (shaped.goto _ _)
  · exact quietly (shaped.goto _ _)
  · exact quietly (shaped.setPublicModes true _)
  · exact quietly (shaped.onCursor _)
  · exact quietly (shaped.eraseScreen _)
  · exact quietly (shaped.eraseLine _)
  · exact quietly (shaped.insertLines _)
  · exact quietly (shaped.setPublicModes false _)
  · exact quietly (shaped.deleteLines _)
  · exact quietly (shaped.onCursor _)
  · exact shaped.reportStatus _
  · exact quietly (shaped.onGrid fun grid => grid.deleteCount _)
  · exact quietly (shaped.setRegion _ _)
  · exact quietly (shaped.scrollUpFrom _ _)
  · exact quietly (shaped.onGrid fun grid => { grid with })
  · exact quietly (shaped.scrollDownFrom _ _)
  · exact shaped.reportSize _
  · exact quietly (shaped.onGrid fun grid => { grid with })
  · exact quietly (shaped.onGrid fun grid => grid.eraseColumns _ _)
  · exact quietly (shaped.onCursor _)
  · exact shaped

theorem sequence (shaped : state.Shaped columns lines limit) (arguments : Arguments)
    (intermediates : List UInt8) (final : Char) :
    (state.sequence arguments intermediates final).1.Shaped columns lines limit := by
  unfold State.sequence
  split
  · exact shaped.plainSequence arguments _
  · split <;> exact shaped
  · exact quietly (shaped.setPrivateModes true _)
  · exact quietly (shaped.setPrivateModes false _)
  · split
    · exact quietly { shaped with }
    · exact shaped
  · exact quietly (shaped.setPointer _)
  · exact shaped
  · exact shaped
  · exact shaped

/-!
## Whole output
-/

theorem escape (shaped : state.Shaped columns lines limit) (intermediates : List UInt8)
    (final : Char) : (state.escape intermediates final).1.Shaped columns lines limit := by
  unfold State.escape
  split
  · exact quietly shaped.lineFeed
  · exact quietly (shaped.lineFeed.onCursor _)
  · exact quietly { shaped with }
  · exact quietly shaped.reverseIndex
  · exact shaped
  · exact quietly shaped.reset
  · exact quietly (shaped.onGrid fun grid => { grid with })
  · exact quietly (shaped.onGrid fun grid => { grid with })
  · exact quietly (shaped.onGrid fun grid => grid.alignmentTest)
  · exact shaped

theorem obey (shaped : state.Shaped columns lines limit) (instruction : Instruction) :
    (state.obey instruction).1.Shaped columns lines limit := by
  cases instruction with
  | print c => exact shaped.print c
  | control byte => exact shaped.control byte
  | escape intermediates final => exact shaped.escape intermediates _
  | sequence parameters intermediates final => exact shaped.sequence _ intermediates _
  | command fields bell =>
    obtain ⟨overrides, pointer, done⟩ := state.command_fst fields bell
    rw [State.obey, done]
    exact { shaped with }

theorem obeyAll (shaped : state.Shaped columns lines limit) (instructions : List Instruction) :
    (state.obeyAll instructions).1.Shaped columns lines limit := by
  induction instructions generalizing state with
  | nil => exact shaped
  | cons instruction rest ih => exact ih (shaped.obey instruction)

theorem takeByte (shaped : state.Shaped columns lines limit) (stream : Stream) (byte : UInt8) :
    (takeByte stream state byte).2.1.Shaped columns lines limit :=
  List.foldlRecOn (motive := fun taken : Stream × State × List Reply =>
    taken.2.1.Shaped columns lines limit) _ _ shaped fun taken kept instruction _ =>
      kept.obeyAll (taken.1.expand instruction).2

theorem takeBytes (shaped : state.Shaped columns lines limit) (stream : Stream)
    (bytes : List UInt8) : (takeBytes stream state bytes).2.1.Shaped columns lines limit :=
  List.foldlRecOn (motive := fun taken : Stream × State × List Reply =>
    taken.2.1.Shaped columns lines limit) _ _ shaped fun taken kept byte _ =>
      kept.takeByte taken.1 byte

end Shaped

end State

end TtyFrame.Screen

import TtyFrame.Proofs.Screen.Feeding
import TtyFrame.Proofs.Screen.Obeying
import TtyFrame.Proofs.Screen.Rewrapping

/-! Whatever a program writes, its screens hold nothing but blanks, tabs, the letter of the
alignment test and the characters that it has printed. -/

set_option autoImplicit false

namespace TtyFrame.Screen

variable {printed : List Char}

namespace State

/-!
## What the cells hold
-/

structure Written (printed : List Char) (state : State) : Prop where
  grid : state.grid.Written printed
  other : state.other.Written printed

theorem blank_written (columns lines history : Nat) (pointer : PointerStyle) :
    (blank columns lines history pointer).Written printed :=
  ⟨.blank .., .blank ..⟩

namespace Written

variable {state : State}

theorem mono {later : List Char} (written : state.Written printed) (more : printed ⊆ later) :
    state.Written later :=
  ⟨written.grid.mono more, written.other.mono more⟩

theorem onGrid (written : state.Written printed) {change : Grid → Grid}
    (keeps : state.grid.Written printed → (change state.grid).Written printed) :
    (state.onGrid change).Written printed :=
  { written with grid := keeps written.grid }

theorem onCursor (written : state.Written printed) (change : GridCursor → GridCursor) :
    (state.onCursor change).Written printed :=
  written.onGrid fun grid => { grid with }

theorem quietly (written : state.Written printed) : state.quietly.1.Written printed := written

theorem resize (written : state.Written printed) (columns lines : Nat) :
    (state.resize columns lines).Written printed := by
  unfold State.resize
  split
  · exact written
  · exact ⟨written.grid.resize .., written.other.resize ..⟩

/-!
## Lines and characters
-/

theorem scrollUpFrom (written : state.Written printed) (start count : Nat) :
    (state.scrollUpFrom start count).Written printed :=
  written.onGrid fun grid => grid.scrollUp _ _

theorem scrollDownFrom (written : state.Written printed) (start count : Nat) :
    (state.scrollDownFrom start count).Written printed := by
  unfold State.scrollDownFrom
  exact written.onGrid fun grid => grid.scrollDown _ _

theorem lineFeed (written : state.Written printed) : state.lineFeed.Written printed := by
  unfold State.lineFeed
  extract_lets next
  split
  · exact written.scrollUpFrom _ _
  · split
    · exact written.onCursor _
    · exact written

theorem wrapLine (written : state.Written printed) : state.wrapLine.Written printed := by
  unfold State.wrapLine
  split
  · exact written
  · extract_lets marked line moved
    have marks : marked.Written printed :=
      written.onGrid fun grid => grid.modifyCursorGlyph _ fun _ glyph => glyph.setWraps true
    have moves : moved.Written printed := by
      unfold moved
      split
      · exact marks.lineFeed
      · exact marks.onCursor _
    exact moves.onCursor _

/-- What is put into a place has to be written already, whatever the pen is. -/
theorem putGlyph (written : state.Written printed) {c : Char} {layout : Layout}
    (puts : ∀ pen, Glyph.Written printed { character := c, pen, layout }) :
    (state.putGlyph c layout).Written printed :=
  written.onGrid fun grid => grid.clearHalf.modifyCursorGlyph _ fun _ _ => puts _

theorem attachMark (written : state.Written printed) : state.attachMark.Written printed :=
  written.onGrid fun grid => grid.modifyCursorGlyph _ fun _ glyph => glyph.mark

theorem shiftRight (written : state.Written printed) (width : Nat) :
    (state.shiftRight width).Written printed := by
  unfold State.shiftRight
  extract_lets column
  split
  · refine written.onGrid fun grid => grid.modifyRow _ fun row kept => ?_
    refine List.foldlRecOn (motive := Throughout (Glyph.Written printed)) _ _ kept ?_
    intro cells shifted offset _
    -- A shift is made of swaps, so it brings in no new glyph.
    exact shifted.swapIfInBounds _ _
  · exact written

theorem putWide (written : state.Written printed) {c : Char} (own : c ∈ printed) :
    (state.putWide c).Written printed := by
  unfold State.putWide
  extract_lets left right
  have lefts : left.Written printed := written.putGlyph fun pen => .of_own (by simp [own]) rfl rfl
  have rights : right.Written printed := lefts.onCursor _
  exact (rights.putGlyph fun pen => .of_blank rfl).onCursor _

theorem printWide (written : state.Written printed) {c : Char} (own : c ∈ printed) :
    (state.printWide c).Written printed := by
  unfold State.printWide
  split
  · exact written.putWide own
  · split
    · exact (written.putGlyph fun pen => .of_blank rfl).wrapLine.putWide own
    · exact written.onCursor _

theorem print (written : state.Written printed) {c : Char} (own : c ∈ printed) :
    (state.print c).Written printed := by
  unfold State.print
  split
  · exact written
  · exact written.attachMark
  · extract_lets wrapped shifted
    have wraps : wrapped.Written printed := by
      unfold wrapped
      split
      · exact written.wrapLine
      · exact written
    have shifts : shifted.Written printed := wraps.shiftRight _
    split
    · exact (shifts.putGlyph fun pen => .of_own (by simp [own]) rfl rfl).onCursor _
    · exact shifts.printWide own

/-!
## Control characters and modes
-/

theorem goto (written : state.Written printed) (line : Int) (column : Nat) :
    (state.goto line column).Written printed := by
  unfold State.goto
  exact written.onCursor _

theorem backspace (written : state.Written printed) : state.backspace.Written printed := by
  unfold State.backspace
  split
  · exact written.onCursor _
  · exact written

theorem tab (written : state.Written printed) : state.tab.Written printed := by
  unfold State.tab
  split
  · exact written.wrapLine
  · extract_lets marked
    have marks : marked.Written printed := by
      refine written.onGrid fun grid => grid.modifyCursorGlyph _ fun glyph kept => ?_
      split
      · exact ⟨by simp, by simp⟩
      · exact kept
    exact marks.onCursor _

theorem reverseIndex (written : state.Written printed) : state.reverseIndex.Written printed := by
  unfold State.reverseIndex
  split
  · exact written.scrollDownFrom _ _
  · exact written.onCursor _

theorem setRegion (written : state.Written printed) (top : Nat) (bottom : Option Nat) :
    (state.setRegion top bottom).Written printed := by
  unfold State.setRegion
  extract_lets last
  split
  · exact written
  · have narrowed : Written printed
        { state with region := ⟨min (top - 1) state.lines, min last state.lines⟩ } :=
      { written with }
    exact narrowed.goto 0 0

theorem control (written : state.Written printed) (byte : UInt8) :
    (state.control byte).Written printed := by
  unfold State.control
  split
  · exact written.backspace
  · exact written.tab
  · exact written.lineFeed
  · exact written.lineFeed
  · exact written.lineFeed
  · exact written.onCursor _
  · exact written

theorem reset (written : state.Written printed) : state.reset.Written printed := by
  unfold State.reset
  cases state.modes.alternate with
  | false => exact ⟨written.grid.reset, written.other.reset⟩
  | true => exact ⟨written.other.reset, written.grid.reset⟩

theorem swapScreens (written : state.Written printed) : state.swapScreens.Written printed := by
  unfold State.swapScreens
  cases state.modes.alternate with
  | false =>
    have cleared : Grid.Written printed { state.other with cursor := state.grid.cursor } :=
      { written.other with }
    exact ⟨cleared.resetLines _, { written.grid with }⟩
  | true => exact ⟨written.other, written.grid⟩

theorem setPrivateMode (written : state.Written printed) (on : Bool) (number : Nat) :
    (state.setPrivateMode on number).Written printed := by
  unfold State.setPrivateMode
  extract_lets switched
  have switches : switched.Written printed := { written with }
  split
  · exact (written.setRegion _ _).onGrid fun grid => grid.resetLines _
  · split
    · exact switches.goto 0 0
    · exact switches
  · exact { written with }
  · split
    · exact written
    · exact written.swapScreens
  · exact switches

/-!
## Control sequences
-/

theorem eraseScreen (written : state.Written printed) (kind : Nat) :
    (state.eraseScreen kind).Written printed := by
  unfold State.eraseScreen
  split
  · exact written.onGrid fun grid => grid.eraseBelow
  · exact written.onGrid fun grid => grid.eraseAbove
  · refine written.onGrid fun grid => ?_
    split
    · exact grid.resetLines _
    · exact grid.clearViewport
  · exact written.onGrid fun grid => grid.clearHistory
  · exact written

theorem eraseLine (written : state.Written printed) (kind : Nat) :
    (state.eraseLine kind).Written printed := by
  unfold State.eraseLine
  split
  · exact written.onGrid fun grid => grid.eraseRight
  · exact written.onGrid fun grid => grid.eraseColumns _ _
  · exact written.onGrid fun grid => grid.eraseColumns _ _
  · exact written

theorem deleteLines (written : state.Written printed) (count : Nat) :
    (state.deleteLines count).Written printed := by
  unfold State.deleteLines
  extract_lets line fewer
  split
  · exact written.scrollUpFrom _ _
  · exact written

theorem insertLines (written : state.Written printed) (count : Nat) :
    (state.insertLines count).Written printed := by
  unfold State.insertLines
  extract_lets line
  split
  · exact written.scrollDownFrom _ _
  · exact written

theorem clearTabs (written : state.Written printed) (kind : Nat) :
    (state.clearTabs kind).Written printed := by
  unfold State.clearTabs
  split
  · exact { written with }
  · exact { written with }
  · exact written

theorem setPointer (written : state.Written printed) (number : Nat) :
    (state.setPointer number).Written printed := by
  unfold State.setPointer
  split
  · exact { written with }
  · exact written

theorem setPublicModes (written : state.Written printed) (on : Bool) (numbers : List Nat) :
    (numbers.foldl (·.setPublicMode on) state).Written printed :=
  List.foldlRecOn numbers _ written fun _ kept _ _ => { kept with }

theorem setPrivateModes (written : state.Written printed) (on : Bool) (numbers : List Nat) :
    (numbers.foldl (·.setPrivateMode on) state).Written printed :=
  List.foldlRecOn numbers _ written fun _ kept number _ => kept.setPrivateMode on number

theorem reportStatus (written : state.Written printed) (kind : Nat) :
    (state.reportStatus kind).1.Written printed := by
  unfold State.reportStatus
  split <;> exact written

theorem reportSize (written : state.Written printed) (kind : Nat) :
    (state.reportSize kind).1.Written printed := by
  unfold State.reportSize
  split <;> exact written

theorem plainSequence (written : state.Written printed) (arguments : Arguments) (final : Char) :
    (state.plainSequence arguments final).1.Written printed := by
  unfold State.plainSequence
  extract_lets first count
  split
  · exact quietly (written.onGrid fun grid => grid.insertCount _)
  · exact quietly (written.goto _ _)
  · exact quietly (written.goto _ _)
  · exact quietly (written.goto _ _)
  · exact quietly (written.onCursor _)
  · exact quietly (written.onCursor _)
  · split <;> exact written
  · exact quietly (written.onCursor _)
  · exact quietly (written.goto _ _)
  · exact quietly (written.goto _ _)
  · exact quietly (written.goto _ _)
  · exact quietly (written.goto _ _)
  · exact quietly (written.goto _ _)
  · exact quietly (written.clearTabs _)
  · exact quietly (written.goto _ _)
  · exact quietly (written.goto _ _)
  · exact quietly (written.setPublicModes true _)
  · exact quietly (written.onCursor _)
  · exact quietly (written.eraseScreen _)
  · exact quietly (written.eraseLine _)
  · exact quietly (written.insertLines _)
  · exact quietly (written.setPublicModes false _)
  · exact quietly (written.deleteLines _)
  · exact quietly (written.onCursor _)
  · exact written.reportStatus _
  · exact quietly (written.onGrid fun grid => grid.deleteCount _)
  · exact quietly (written.setRegion _ _)
  · exact quietly (written.scrollUpFrom _ _)
  · exact quietly (written.onGrid fun grid => { grid with })
  · exact quietly (written.scrollDownFrom _ _)
  · exact written.reportSize _
  · exact quietly (written.onGrid fun grid => { grid with })
  · exact quietly (written.onGrid fun grid => grid.eraseColumns _ _)
  · exact quietly (written.onCursor _)
  · exact written

theorem sequence (written : state.Written printed) (arguments : Arguments)
    (intermediates : List UInt8) (final : Char) :
    (state.sequence arguments intermediates final).1.Written printed := by
  unfold State.sequence
  split
  · exact written.plainSequence arguments _
  · split <;> exact written
  · exact quietly (written.setPrivateModes true _)
  · exact quietly (written.setPrivateModes false _)
  · split
    · exact quietly { written with }
    · exact written
  · exact quietly (written.setPointer _)
  · exact written
  · exact written
  · exact written

/-!
## Instructions
-/

theorem escape (written : state.Written printed) (intermediates : List UInt8) (final : Char) :
    (state.escape intermediates final).1.Written printed := by
  unfold State.escape
  split
  · exact quietly written.lineFeed
  · exact quietly (written.lineFeed.onCursor _)
  · exact quietly { written with }
  · exact quietly written.reverseIndex
  · exact written
  · exact quietly written.reset
  · exact quietly (written.onGrid fun grid => { grid with })
  · exact quietly (written.onGrid fun grid => { grid with })
  · exact quietly (written.onGrid fun grid => grid.alignmentTest)
  · exact written

theorem obey (written : state.Written printed) {instruction : Instruction}
    (own : ∀ c, instruction = .print c → c ∈ printed) :
    (state.obey instruction).1.Written printed := by
  cases instruction with
  | print c => exact written.print (own c rfl)
  | control byte => exact written.control byte
  | escape intermediates final => exact written.escape intermediates _
  | sequence parameters intermediates final => exact written.sequence _ intermediates _
  | command fields bell =>
    obtain ⟨overrides, pointer, done⟩ := state.command_fst fields bell
    rw [State.obey, done]
    exact { written with }

theorem obeyAll (written : state.Written printed) {instructions : List Instruction}
    (own : ∀ c, .print c ∈ instructions → c ∈ printed) :
    (state.obeyAll instructions).1.Written printed := by
  induction instructions generalizing state with
  | nil => exact written
  | cons instruction rest ih =>
    have first : (state.obey instruction).1.Written printed :=
      written.obey fun c same => own c (same ▸ List.mem_cons_self)
    exact ih first fun c member => own c (List.mem_cons_of_mem _ member)

end Written

end State

/-!
## The characters of the output
-/

/-- The character that an instruction prints, if it prints one. -/
def Instruction.printed? : Instruction → Option Char
  | .print c => some c
  | .control _ | .escape _ _ | .sequence _ _ _ | .command _ _ => none

/-- The characters that are printed when some bytes are read. -/
def Lexer.prints (lexer : Lexer) : List UInt8 → List Char
  | [] => []
  | byte :: rest =>
    (lexer.step byte).2.filterMap Instruction.printed? ++ (lexer.step byte).1.prints rest

/-- The lexer when some bytes have been read. -/
def Lexer.after (lexer : Lexer) (bytes : List UInt8) : Lexer :=
  bytes.foldl (fun lexer byte => (lexer.step byte).1) lexer

private theorem Lexer.prints_append (lexer : Lexer) (bytes more : List UInt8) :
    lexer.prints (bytes ++ more) = lexer.prints bytes ++ (lexer.after bytes).prints more := by
  induction bytes generalizing lexer with
  | nil => rfl
  | cons byte rest ih =>
    rw [List.cons_append, prints, ih, prints, List.append_assoc]
    rfl

/-!
## Reading output
-/

/-- A screen and the character that a program may have repeated. -/
structure Taken (printed : List Char) (stream : Stream) (state : State) : Prop where
  state : state.Written printed
  last : ∀ c ∈ stream.last, c ∈ printed

namespace Taken

variable {stream : Stream} {state : State}

theorem mono {later : List Char} (taken : Taken printed stream state) (more : printed ⊆ later) :
    Taken later stream state :=
  ⟨taken.state.mono more, fun c again => more (taken.last c again)⟩

theorem expand (last : ∀ c ∈ stream.last, c ∈ printed) {instruction : Instruction}
    (own : ∀ c ∈ instruction.printed?, c ∈ printed) :
    (∀ c ∈ (stream.expand instruction).1.last, c ∈ printed) ∧
      ∀ c, .print c ∈ (stream.expand instruction).2 → c ∈ printed := by
  unfold Stream.expand
  split
  · next c =>
    have printable : c ∈ printed := own c rfl
    exact ⟨by simpa using printable, by simpa using printable⟩
  · split
    · next c again =>
      refine ⟨last, fun other member => ?_⟩
      cases (List.mem_replicate.mp member).2
      exact last c again
    · exact ⟨last, nofun⟩
  · refine ⟨last, fun c member => own c ?_⟩
    rw [← List.mem_singleton.mp member]
    rfl

theorem obeyStep (taken : Taken printed stream state) {instruction : Instruction}
    (own : ∀ c ∈ instruction.printed?, c ∈ printed) :
    Taken printed (obeyStep stream state instruction).1 (obeyStep stream state instruction).2.1 := by
  obtain ⟨last, expanded⟩ := expand taken.last own
  exact ⟨taken.state.obeyAll expanded, last⟩

theorem takeByte (taken : Taken printed stream state) {byte : UInt8}
    (own : ∀ c ∈ (stream.lexer.step byte).2.filterMap Instruction.printed?, c ∈ printed) :
    Taken printed (takeByte stream state byte).1 (takeByte stream state byte).2.1 :=
  List.foldlRecOn
    (motive := fun next : Stream × State × List Reply => Taken printed next.1 next.2.1)
    _ _ ⟨taken.state, taken.last⟩ fun _ kept instruction member =>
      kept.obeyStep fun c prints => own c (List.mem_filterMap.mpr ⟨instruction, member, prints⟩)

theorem foldl_feed (taken : Taken printed stream state) {bytes : List UInt8}
    (own : ∀ c ∈ stream.lexer.prints bytes, c ∈ printed) :
    Taken printed (bytes.foldl feed (stream, state)).1 (bytes.foldl feed (stream, state)).2 ∧
      (bytes.foldl feed (stream, state)).1.lexer = stream.lexer.after bytes := by
  induction bytes generalizing stream state with
  | nil => exact ⟨taken, rfl⟩
  | cons byte rest ih =>
    have read := takeByte_lexer stream state byte
    rw [Lexer.prints] at own
    have later := ih (taken.takeByte fun c member => own c (List.mem_append_left _ member)) (by
      rw [read]
      exact fun c member => own c (List.mem_append_right _ member))
    rw [read] at later
    exact later

theorem takeBytes (taken : Taken printed stream state) {bytes : List UInt8}
    (own : ∀ c ∈ stream.lexer.prints bytes, c ∈ printed) :
    Taken printed (takeBytes stream state bytes).1 (takeBytes stream state bytes).2.1 ∧
      (Screen.takeBytes stream state bytes).1.lexer = stream.lexer.after bytes := by
  have fed := taken.foldl_feed own
  rwa [Screen.foldl_feed] at fed

end Taken

/-!
## Screens that are reached
-/

/-- The screens that output and resizes make of an empty one, with all output so far. -/
inductive Reached : List UInt8 → Stream → State → Prop where
  | blank (columns lines history : Nat) (pointer : PointerStyle) :
      Reached [] {} (.blank columns lines history pointer)
  | output {output stream state} (reached : Reached output stream state) (bytes : List UInt8) :
      Reached (output ++ bytes) (takeBytes stream state bytes).1 (takeBytes stream state bytes).2.1
  | resize {output stream state} (reached : Reached output stream state) (columns lines : Nat) :
      Reached output stream (state.resize columns lines)

/-- All that the output has printed, as it is read from the start. -/
def printedBy (output : List UInt8) : List Char := ({} : Lexer).prints output

theorem Reached.taken {output : List UInt8} {stream : Stream} {state : State}
    (reached : Reached output stream state) :
    Taken (printedBy output) stream state ∧ stream.lexer = ({} : Lexer).after output := by
  induction reached with
  | blank columns lines history pointer => exact ⟨⟨State.blank_written .., nofun⟩, rfl⟩
  | @output output stream state _ bytes ih =>
    obtain ⟨taken, read⟩ := ih
    -- The lexer goes on where the earlier output has left it.
    have parts : printedBy (output ++ bytes) = printedBy output ++ stream.lexer.prints bytes := by
      rw [read]
      exact Lexer.prints_append ..
    have before : Taken (printedBy (output ++ bytes)) stream state := by
      rw [parts]
      exact taken.mono (List.subset_append_left _ _)
    obtain ⟨now, after⟩ := before.takeBytes fun c member => by
      rw [parts]
      exact List.mem_append_right _ member
    refine ⟨now, after.trans ?_⟩
    rw [read, Lexer.after, Lexer.after, Lexer.after, List.foldl_append]
  | resize _ columns lines ih => exact ⟨⟨ih.1.state.resize columns lines, ih.1.last⟩, ih.2⟩

end TtyFrame.Screen

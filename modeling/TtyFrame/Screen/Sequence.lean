import TtyFrame.Screen.Command
import TtyFrame.Screen.Erasing
import TtyFrame.Screen.Rendition
import TtyFrame.Screen.Writing

/-!
# Obeying a program

What each instruction of a program does to the screen, and what the terminal answers.
-/

set_option autoImplicit false

namespace TtyFrame.Screen.State

open Text

def quietly (state : State) : State × List Reply := (state, [])

def answering (state : State) (text : String) : State × List Reply := (state, [.text text])

def control (state : State) (byte : UInt8) : State :=
  match byte with
  | 0x08 => state.backspace
  | 0x09 => state.tab
  | 0x0A | 0x0B | 0x0C => state.lineFeed
  | 0x0D => state.carriageReturn
  | _ => state

/-- The screen as it was before the first output. The overridden colours stay. -/
def reset (state : State) : State :=
  let (grid, other) :=
    if state.modes.alternate then (state.other, state.grid) else (state.grid, state.other)
  { state with
    grid := grid.reset, other := other.reset, modes := {}, region := ⟨0, grid.lines⟩
    tabs := initialTabs grid.columns, pointer := none }

/-- Turns the other screen on. The alternate screen starts blank, with the cursor where
it is. -/
def swapScreens (state : State) : State :=
  let (grid, other) :=
    if state.modes.alternate then (state.grid, state.other)
    else
      ({ state.grid with saved := state.grid.cursor },
        ({ state.other with cursor := state.grid.cursor } : Grid).resetScreen)
  { state with
    grid := other, other := grid
    modes := { state.modes with alternate := !state.modes.alternate } }

/-- Scrolls all lines again and blanks the screen. -/
def columnMode (state : State) : State :=
  (state.setRegion 1 none).onGrid Grid.resetScreen

def setBlinking (state : State) (blinking : Bool) : State :=
  { state with pointer := some { state.pointerStyle with blinking } }

def setPrivateMode (state : State) (on : Bool) (number : Nat) : State :=
  let switched := { state with modes := state.modes.setPrivate number on }
  match number with
  | 3 => state.columnMode
  | 6 => if on then switched.goto 0 0 else switched
  | 12 => state.setBlinking on
  | 1049 => if state.modes.alternate = on then state else state.swapScreens
  | _ => switched

def setPublicMode (state : State) (on : Bool) (number : Nat) : State :=
  { state with modes := state.modes.setPublic number on }

def modeDigit : Option Bool → String
  | some true => "1"
  | some false => "2"
  | none => "0"

/-- Whether a private mode is on, if it is one that is reported. -/
def privateMode? (state : State) (number : Nat) : Option Bool :=
  if number = 12 then some state.pointerStyle.blinking else state.modes.getPrivate? number

def clearTabs (state : State) (kind : Nat) : State :=
  match kind with
  | 0 => { state with tabs := state.tabs.setIfInBounds state.grid.cursor.column false }
  | 3 => { state with tabs := state.tabs.map fun _ => false }
  | _ => state

def setTab (state : State) : State :=
  { state with tabs := state.tabs.setIfInBounds state.grid.cursor.column true }

def eraseScreen (state : State) (kind : Nat) : State :=
  match kind with
  | 0 => state.onGrid Grid.eraseBelow
  | 1 => state.onGrid Grid.eraseAbove
  | 2 => state.onGrid (if state.modes.alternate then Grid.resetScreen else Grid.clearViewport)
  | 3 => state.onGrid Grid.clearHistory
  | _ => state

def eraseLine (state : State) (kind : Nat) : State :=
  match kind with
  | 0 => state.onGrid Grid.eraseRight
  | 1 => state.onGrid Grid.eraseLeft
  | 2 => state.onGrid Grid.eraseRow
  | _ => state

/-- Deletes lines at the cursor, if it stands in the region. -/
def deleteLines (state : State) (count : Nat) : State :=
  let line := state.grid.cursor.line
  let count := min (state.lines - line) count
  if 0 < count && state.region.contains line then state.scrollUpFrom line count else state

/-- Puts blank lines in at the cursor, if it stands in the region. -/
def insertLines (state : State) (count : Nat) : State :=
  let line := state.grid.cursor.line
  if state.region.contains line then state.scrollDownFrom line count else state

/-- The cursor style of a number; the inner value is the style to set, if any. -/
def pointerOfNumber? (number : Nat) : Option (Option PointerStyle) :=
  let blinking := number % 2 = 1
  match number with
  | 0 => some none
  | 1 | 2 => some (some ⟨.block, blinking⟩)
  | 3 | 4 => some (some ⟨.underline, blinking⟩)
  | 5 | 6 => some (some ⟨.beam, blinking⟩)
  | _ => none

def setPointer (state : State) (number : Nat) : State :=
  match pointerOfNumber? number with
  | some pointer => { state with pointer }
  | none => state

/-- Answers where the cursor is, or that the terminal is there. -/
def reportStatus (state : State) (kind : Nat) : State × List Reply :=
  match kind with
  | 5 => state.answering "\x1b[0n"
  | 6 =>
    let cursor := state.grid.cursor
    state.answering
      ("\x1b[" ++ numeral (cursor.line + 1) ++ ";" ++ numeral (cursor.column + 1) ++ "R")
  | _ => state.quietly

def reportSize (state : State) (kind : Nat) : State × List Reply :=
  match kind with
  | 14 => (state, [.pixelSize])
  | 18 =>
    state.answering ("\x1b[8;" ++ numeral state.lines ++ ";" ++ numeral state.columns ++ "t")
  | _ => state.quietly

/-- The parameters of a sequence, with the first part of each. -/
structure Arguments where
  all : List (List Nat)

/-- A parameter, or the default if it is missing or zero. -/
def Arguments.get (arguments : Arguments) (index default : Nat) : Nat :=
  let value := (arguments.all.getD index []).headD 0
  if value = 0 then default else value

def Arguments.firsts (arguments : Arguments) : List Nat := Pen.firstParts arguments.all

/-- Obeys a sequence without intermediate bytes. -/
def plainSequence (state : State) (arguments : Arguments) (final : Char) :
    State × List Reply :=
  let first := arguments.get 0
  let count := first 1
  match final with
  | '@' => (state.onGrid (·.insertCount count)).quietly
  | 'A' => (state.moveLines (-count)).quietly
  | 'B' | 'e' => (state.moveLines count).quietly
  | 'C' | 'a' => (state.moveRight count).quietly
  | 'c' => if first 0 = 0 then state.answering "\x1b[?6c" else state.quietly
  | 'D' => (state.moveLeft count).quietly
  | 'd' => (state.goto ((count : Int) - 1) state.grid.cursor.column).quietly
  | 'E' => (state.goto (state.grid.cursor.line + count) 0).quietly
  | 'F' => (state.goto (state.grid.cursor.line - count) 0).quietly
  | 'G' | '\x60' => (state.gotoColumn (count - 1)).quietly
  | 'g' => (state.clearTabs (first 0)).quietly
  | 'H' | 'f' => (state.goto ((count : Int) - 1) (arguments.get 1 1 - 1)).quietly
  | 'h' => (arguments.firsts.foldl (·.setPublicMode true) state).quietly
  | 'I' => (state.moveTabs nextTab count).quietly
  | 'J' => (state.eraseScreen (first 0)).quietly
  | 'K' => (state.eraseLine (first 0)).quietly
  | 'L' => (state.insertLines count).quietly
  | 'l' => (arguments.firsts.foldl (·.setPublicMode false) state).quietly
  | 'M' => (state.deleteLines count).quietly
  | 'm' => (state.onCursor fun cursor =>
      { cursor with pen := cursor.pen.render arguments.all }).quietly
  | 'n' => state.reportStatus (first 0)
  | 'P' => (state.onGrid (·.deleteCount count)).quietly
  | 'r' =>
    let bottom := arguments.get 1 0
    (state.setRegion count (if bottom = 0 then none else some bottom)).quietly
  | 'S' => (state.scrollUpFrom state.region.start count).quietly
  | 's' => state.saveCursor.quietly
  | 'T' => (state.scrollDownFrom state.region.start count).quietly
  | 't' => state.reportSize count
  | 'u' => state.restoreCursor.quietly
  | 'X' => (state.onGrid (·.eraseCount count)).quietly
  | 'Z' => (state.moveTabs previousTab count).quietly
  | _ => state.quietly

def sequence (state : State) (arguments : Arguments) (intermediates : List UInt8)
    (final : Char) : State × List Reply :=
  match intermediates.map fun byte => Char.ofNat byte.toNat, final with
  | [], _ => state.plainSequence arguments final
  | '>' :: _, 'c' =>
    if arguments.get 0 0 = 0 then state.answering "\x1b[>0;2501;1c" else state.quietly
  | ['?'], 'h' => (arguments.firsts.foldl (·.setPrivateMode true) state).quietly
  | ['?'], 'l' => (arguments.firsts.foldl (·.setPrivateMode false) state).quietly
  | ['?'], 'W' =>
    if arguments.get 0 0 = 5 then
      { state with tabs := initialTabs state.columns }.quietly
    else state.quietly
  | [' '], 'q' => (state.setPointer (arguments.get 0 0)).quietly
  | ['$'], 'p' =>
    let number := arguments.get 0 0
    state.answering
      ("\x1b[" ++ numeral number ++ ";" ++ modeDigit (state.modes.getPublic? number) ++ "$y")
  | ['?', '$'], 'p' =>
    let number := arguments.get 0 0
    state.answering
      ("\x1b[?" ++ numeral number ++ ";" ++ modeDigit (state.privateMode? number) ++ "$y")
  | _, _ => state.quietly

def escape (state : State) (intermediates : List UInt8) (final : Char) :
    State × List Reply :=
  match intermediates, final with
  | [], 'D' => state.lineFeed.quietly
  | [], 'E' => state.lineFeed.carriageReturn.quietly
  | [], 'H' => state.setTab.quietly
  | [], 'M' => state.reverseIndex.quietly
  | [], 'Z' => state.answering "\x1b[?6c"
  | [], 'c' => state.reset.quietly
  | [], '7' => state.saveCursor.quietly
  | [], '8' => state.restoreCursor.quietly
  | [0x23], '8' => (state.onGrid Grid.alignmentTest).quietly
  | _, _ => state.quietly

def obey (state : State) : Instruction → State × List Reply
  | .print c => (state.print c).quietly
  | .control byte => (state.control byte).quietly
  | .escape intermediates final => state.escape intermediates (Char.ofNat final.toNat)
  | .sequence parameters intermediates final =>
    state.sequence ⟨parameters⟩ intermediates (Char.ofNat final.toNat)
  | .command fields bell => state.command fields bell

def obeyAll (state : State) : List Instruction → State × List Reply
  | [] => (state, [])
  | instruction :: rest =>
    let (next, replies) := state.obey instruction
    let (last, more) := next.obeyAll rest
    (last, replies ++ more)

end TtyFrame.Screen.State

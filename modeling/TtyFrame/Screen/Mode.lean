/-!
# Screen modes

The switches that programs turn on and off, by the numbers they use for them.
-/

set_option autoImplicit false

namespace TtyFrame.Screen

structure Modes where
  /-- Characters push those after them to the right. -/
  insert : Bool := false
  newLine : Bool := false
  applicationCursor : Bool := false
  /-- Lines count from the top of the scroll region. -/
  origin : Bool := false
  /-- A character behind the last column goes to the next line. -/
  wrap : Bool := true
  showCursor : Bool := true
  mouseClicks : Bool := false
  mouseDrag : Bool := false
  mouseMotion : Bool := false
  focusReports : Bool := false
  mouseUtf8 : Bool := false
  mouseSgr : Bool := false
  alternateScroll : Bool := true
  urgencyHints : Bool := true
  alternate : Bool := false
  bracketedPaste : Bool := false
deriving DecidableEq, Repr

/-- The three ways to report the mouse exclude each other. -/
def Modes.withoutMouse (modes : Modes) : Modes :=
  { modes with mouseClicks := false, mouseDrag := false, mouseMotion := false }

/-- Switches a private mode that does nothing else. -/
def Modes.setPrivate (modes : Modes) (number : Nat) (on : Bool) : Modes :=
  match number with
  | 1 => { modes with applicationCursor := on }
  | 6 => { modes with origin := on }
  | 7 => { modes with wrap := on }
  | 25 => { modes with showCursor := on }
  | 1000 => { (if on then modes.withoutMouse else modes) with mouseClicks := on }
  | 1002 => { (if on then modes.withoutMouse else modes) with mouseDrag := on }
  | 1003 => { (if on then modes.withoutMouse else modes) with mouseMotion := on }
  | 1004 => { modes with focusReports := on }
  | 1005 => { modes with mouseUtf8 := on, mouseSgr := modes.mouseSgr && !on }
  | 1006 => { modes with mouseSgr := on, mouseUtf8 := modes.mouseUtf8 && !on }
  | 1007 => { modes with alternateScroll := on }
  | 1042 => { modes with urgencyHints := on }
  | 2004 => { modes with bracketedPaste := on }
  | _ => modes

/-- Whether a private mode is on, if it is one that is known. Synchronised output is
known and never on. -/
def Modes.getPrivate? (modes : Modes) (number : Nat) : Option Bool :=
  match number with
  | 1 => some modes.applicationCursor
  | 6 => some modes.origin
  | 7 => some modes.wrap
  | 25 => some modes.showCursor
  | 1000 => some modes.mouseClicks
  | 1002 => some modes.mouseDrag
  | 1003 => some modes.mouseMotion
  | 1004 => some modes.focusReports
  | 1005 => some modes.mouseUtf8
  | 1006 => some modes.mouseSgr
  | 1007 => some modes.alternateScroll
  | 1042 => some modes.urgencyHints
  | 1049 => some modes.alternate
  | 2004 => some modes.bracketedPaste
  | 2026 => some false
  | _ => none

def Modes.setPublic (modes : Modes) (number : Nat) (on : Bool) : Modes :=
  match number with
  | 4 => { modes with insert := on }
  | 20 => { modes with newLine := on }
  | _ => modes

def Modes.getPublic? (modes : Modes) (number : Nat) : Option Bool :=
  match number with
  | 4 => some modes.insert
  | 20 => some modes.newLine
  | _ => none

end TtyFrame.Screen

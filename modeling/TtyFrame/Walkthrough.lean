import TtyFrame.Connector.TestPage
import TtyFrame.Pane
import TtyFrame.Screen.Engine

/-!
# The walkthrough

A pane shows the colour test page, is scrolled through its history, and then takes an
episode of a soft keyboard. What it shows on the way is printed as text.
-/

set_option autoImplicit false

namespace TtyFrame.Walkthrough

/-- A pane over the echo connector, with nobody else listening. -/
abbrev EchoPane := Pane Screen.State Echo Float32 Unit

/-- Pinyin input of two characters with a correction, a command line, keys, and a last
enter. -/
def episode : List Composition.Event :=
  [.compose "n", .compose "ni", .compose "你", .commit "你", .finish,
   .compose "hao", .deleteSurrounding 1 0, .compose "ha", .compose "好", .finish,
   .commit " ls\n", .commit "echo", .deleteSurrounding 2 0,
   .key { code := .home } none, .key { code := .home, isDown := false } none,
   .key { code := .endKey } none, .key { code := .endKey, isDown := false } none,
   .key { code := .letterC, modifiers := { control := true } } (some 'c'),
   .key { code := .letterC, modifiers := { control := true }, isDown := false } (some 'c'),
   .action .done]

def lineHeight : Float32 := 20

def maxReads : Nat := 256

/-- Reads what the connector has for the pane, up to a number of reads, and applies the
changes. -/
def settle : Nat → EchoPane → EchoPane
  | 0, pane => pane.pump.1
  | reads + 1, pane =>
    match pane.session.connector with
    | none => pane.pump.1
    | some echo =>
      let (pipe, bytes) := echo.pipe.read Session.readSize
      if bytes.isEmpty then pane.pump.1
      else
        let session := { pane.session with connector := some { echo with pipe } }
        settle reads ({ pane with session }.output bytes).1

/-- A number in three columns, or more if it needs them. -/
def rowLabel (row : Nat) : String :=
  let digits := Text.numeral row
  "".pushn ' ' (3 - digits.length) ++ digits

def shapeLabel (cursor : Cursor) : String :=
  let shape := match cursor.shape with
    | .block => "Block"
    | .underline => "Underline"
    | .bar => "VerticalBar"
  shape ++ (if cursor.blinking then "(Blinking)" else "(Steady)")

def cursorLine : Option Cursor → String
  | some cursor =>
    "cursor: row " ++ Text.numeral cursor.row ++ " col " ++ Text.numeral cursor.column ++ " " ++
      shapeLabel cursor
  | none => "cursor: hidden"

def frameLines (title : String) (frame : Frame) : List String :=
  let heading :=
    "--- " ++ title ++ " (" ++ Text.numeral frame.columns ++ "x" ++ Text.numeral frame.rows ++
      ", origin " ++ toString frame.origin ++ ") ---"
  let rows := (List.range frame.rows).map fun row =>
    rowLabel row ++ " | " ++ frame.rowText row
  heading :: rows ++ [cursorLine frame.cursor]

inductive Failure where
  | start (cause : Session.Error)
  | render (cause : RenderError)
deriving DecidableEq, Repr

def Failure.message : Failure → String
  | .start cause => "Failed to start session: " ++ cause.message
  | .render cause => cause.message

/-- A walkthrough under way: the lines printed so far, and the pane unless it broke off. -/
abbrev Progress := List String × Except Failure EchoPane

def printFrame (title : String) (printed : List String) (pane : EchoPane) : Progress :=
  match pane.render false with
  | (pane, .ok frame) => (printed ++ frameLines title frame, .ok pane)
  | (_, .error cause) => (printed, .error (.render cause))

/-- Goes on with a pane that is still there. -/
def continueWith (progress : Progress) (next : List String → EchoPane → Progress) : Progress :=
  match progress with
  | (printed, .ok pane) => next printed pane
  | (printed, .error failure) => (printed, .error failure)

def run (config : Config) : Progress :=
  match (Pane.ofConfig config : EchoPane).start TestPage.connector with
  | (_, .error cause) => ([], .error (.start cause))
  | (pane, .ok ()) =>
    continueWith (printFrame "live" [] (settle maxReads pane)) fun printed pane =>
      let height := Float32.ofNat pane.view.scroll.history * lineHeight
      let (dragged, _) := pane.drag height lineHeight
      continueWith (printFrame "top of scrollback" printed dragged) fun printed pane =>
        let typed := episode.foldl (fun pane event => (pane.handle event).1) pane.scrollToBottom
        printFrame "after scripted input" printed (settle maxReads typed)

end TtyFrame.Walkthrough

import TtyFrame.Screen.Glyph

/-!
# Graphic rendition

How the parameters of a rendition sequence change the pen.
-/

set_option autoImplicit false

namespace TtyFrame.Screen

def byte? (value : Nat) : Option UInt8 :=
  if value < 256 then some (UInt8.ofNat value) else none

/-- The colour that numbers spell, and the numbers after it. Numbers up to the one that
does not fit are used up even if there is no colour. -/
def colorOfNumbers : List Nat → Option CellColor × List Nat
  | 2 :: red :: rest =>
    match byte? red, rest with
    | none, _ => (none, rest)
    | some _, [] => (none, [])
    | some red, green :: rest =>
      match byte? green, rest with
      | none, _ => (none, rest)
      | some _, [] => (none, [])
      | some green, blue :: rest =>
        ((byte? blue).map fun blue => .direct ⟨red, green, blue⟩, rest)
  | 5 :: index :: rest => ((byte? index).map .indexed, rest)
  | _ :: rest => (none, rest)
  | [] => (none, [])

/-- The colour in the parts of one parameter, after the part that says what it is for. A
colour space may stand before the levels. -/
def colorOfParts : List Nat → Option CellColor
  | kind :: rest => (colorOfNumbers (kind :: if 3 < rest.length then rest.drop 1 else rest)).1
  | [] => none

namespace Pen

def setForeground (pen : Pen) (color : Option CellColor) : Pen :=
  { pen with foreground := color.getD pen.foreground }

def setBackground (pen : Pen) (color : Option CellColor) : Pen :=
  { pen with background := color.getD pen.background }

def setAttributes (pen : Pen) (change : Attributes → Attributes) : Pen :=
  { pen with attributes := change pen.attributes }

def baseColor (index : Nat) : CellColor := .named (.base (Fin.ofNat 16 index))

/-- The change of a parameter that stands for itself. -/
def applyCode (pen : Pen) (code : Nat) : Pen :=
  match code with
  | 0 => {}
  | 1 => pen.setAttributes ({ · with bold := true })
  | 2 => pen.setAttributes ({ · with dim := true })
  | 3 => pen.setAttributes ({ · with italic := true })
  | 4 => pen.setAttributes ({ · with underline := true })
  | 7 => pen.setAttributes ({ · with inverse := true })
  | 8 => pen.setAttributes ({ · with hidden := true })
  | 9 => { pen with strikeout := true }
  | 21 => pen.setAttributes ({ · with bold := false })
  | 22 => pen.setAttributes ({ · with bold := false, dim := false })
  | 23 => pen.setAttributes ({ · with italic := false })
  | 24 => pen.setAttributes ({ · with underline := false })
  | 27 => pen.setAttributes ({ · with inverse := false })
  | 28 => pen.setAttributes ({ · with hidden := false })
  | 29 => { pen with strikeout := false }
  | 39 => { pen with foreground := .named .foreground }
  | 49 => { pen with background := .named .background }
  | code =>
    if 30 ≤ code ∧ code ≤ 37 then { pen with foreground := baseColor (code - 30) }
    else if 40 ≤ code ∧ code ≤ 47 then { pen with background := baseColor (code - 40) }
    else if 90 ≤ code ∧ code ≤ 97 then { pen with foreground := baseColor (code - 82) }
    else if 100 ≤ code ∧ code ≤ 107 then { pen with background := baseColor (code - 92) }
    else pen

/-- The change of a parameter with more than one part. -/
def applyParts (pen : Pen) (code : Nat) (parts : List Nat) : Pen :=
  match code with
  | 4 => pen.setAttributes ({ · with underline := parts ≠ [0] })
  | 38 => pen.setForeground (colorOfParts parts)
  | 48 => pen.setBackground (colorOfParts parts)
  | _ => pen

def firstParts (parameters : List (List Nat)) : List Nat :=
  parameters.map (·.headD 0)

/-- The parameters after a colour that began with the one before them. -/
def afterColor (parameters : List (List Nat)) : Option CellColor × List (List Nat) :=
  let (color, rest) := colorOfNumbers (firstParts parameters)
  (color, parameters.drop (parameters.length - rest.length))

def applyParameters : Nat → Pen → List (List Nat) → Pen
  | 0, pen, _ => pen
  | _, pen, [] => pen
  | fuel + 1, pen, [38] :: rest =>
    let (color, rest) := afterColor rest
    applyParameters fuel (pen.setForeground color) rest
  | fuel + 1, pen, [48] :: rest =>
    let (color, rest) := afterColor rest
    applyParameters fuel (pen.setBackground color) rest
  | fuel + 1, pen, [58] :: rest => applyParameters fuel pen (afterColor rest).2
  | fuel + 1, pen, [code] :: rest => applyParameters fuel (pen.applyCode code) rest
  | fuel + 1, pen, (code :: parts) :: rest =>
    applyParameters fuel (pen.applyParts code parts) rest
  | fuel + 1, pen, [] :: rest => applyParameters fuel pen rest

/-- Applies the parameters of a rendition sequence. -/
def render (pen : Pen) (parameters : List (List Nat)) : Pen :=
  applyParameters parameters.length pen parameters

end Pen

end TtyFrame.Screen

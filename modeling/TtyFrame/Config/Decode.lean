import TtyFrame.Config
import TtyFrame.Toml.Document

/-!
# Configuration from a document

Reads the settings out of the tree of a TOML document. A setting that is not there has
its default; one with a value of the wrong kind or range refuses the whole document.
-/

set_option autoImplicit false

namespace TtyFrame.Config

open Toml (Node Entries)

def textOf? : Node → Option String
  | .string text => some text
  | _ => none

def textsOf? : Node → Option (List String)
  | .array items => items.mapM textOf?
  | _ => none

/-- The natural number of a node, below the bound. -/
def numberBelow? (bound : Nat) : Node → Option Nat
  | .integer value => if 0 ≤ value ∧ value < bound then some value.toNat else none
  | _ => none

def flagOf? : Node → Option Bool
  | .boolean value => some value
  | _ => none

/-- A node without content. -/
def isHollow : Node → Bool
  | .array items => items.isEmpty
  | .table _ entries => entries.isEmpty
  | _ => false

/-- The composition strategy of a node: its name, or a table with the name as its only
key and a node without content. -/
def strategyOf? : Node → Option Composition.Strategy
  | .string name => Composition.Strategy.ofName? name
  | .table _ [(name, node)] => if isHollow node then Composition.Strategy.ofName? name else none
  | _ => none

/-- The setting of a key, read as the reader says, or its default. -/
def setting? {α : Type} (entries : Entries) (key : String) (read : Node → Option α)
    (default : α) : Option α :=
  match entries.get? key with
  | none => some default
  | some node => read node

/-- The settings of a document. Keys that name no setting are left alone. -/
def decode? (entries : Entries) : Option Config := do
  let initial : Config := {}
  let theme ← setting? entries "theme" textOf? initial.theme
  let palette ← setting? entries "palette" textsOf? initial.palette
  let scrollbackLines ←
    setting? entries "scrollback-lines" (numberBelow? UInt64.size) initial.scrollbackLines
  let columns ← setting? entries "columns" (numberBelow? UInt16.size) initial.columns
  let rows ← setting? entries "rows" (numberBelow? UInt16.size) initial.rows
  let foreground ← setting? entries "default-foreground" (numberBelow? UInt8.size)
    initial.defaultForeground.toNat
  let background ← setting? entries "default-background" (numberBelow? UInt8.size)
    initial.defaultBackground.toNat
  let composition ← setting? entries "composition" strategyOf? initial.composition
  let scrollReverse ← setting? entries "scroll-reverse" flagOf? initial.scrollReverse
  return { theme, palette, scrollbackLines, columns, rows
           defaultForeground := UInt8.ofNat foreground
           defaultBackground := UInt8.ofNat background
           composition, scrollReverse }

def parse? (text : String) : Option Config := (Toml.parse? text).bind decode?

end TtyFrame.Config

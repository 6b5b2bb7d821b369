import TtyFrame.Buffer
import TtyFrame.Color
import TtyFrame.Color.Loose
import TtyFrame.Composition
import TtyFrame.Composition.Accumulator
import TtyFrame.Composition.Counted
import TtyFrame.Composition.Strategy
import TtyFrame.Config
import TtyFrame.Config.Decode
import TtyFrame.Config.Home
import TtyFrame.Config.Load
import TtyFrame.Config.Watch
import TtyFrame.Connector
import TtyFrame.Connector.Echo
import TtyFrame.Connector.TestPage
import TtyFrame.Decimal.Range
import TtyFrame.Decimal.Shortest
import TtyFrame.Engine
import TtyFrame.Frame
import TtyFrame.Frame.Counted
import TtyFrame.Key
import TtyFrame.Key.Encoding
import TtyFrame.Key.Xterm
import TtyFrame.Main
import TtyFrame.Palette
import TtyFrame.Pane
import TtyFrame.Pane.Counted
import TtyFrame.Pane.Extent
import TtyFrame.Pane.ViewState
import TtyFrame.Presentation.Context
import TtyFrame.Presentation.Job
import TtyFrame.Presentation.Program
import TtyFrame.Proofs.Color
import TtyFrame.Proofs.Composition.Accumulator
import TtyFrame.Proofs.Composition.Counted
import TtyFrame.Proofs.Composition.Draft
import TtyFrame.Proofs.Composition.Edits
import TtyFrame.Proofs.Composition.LineEnds
import TtyFrame.Proofs.Composition.Order
import TtyFrame.Proofs.Composition.Script
import TtyFrame.Proofs.Composition.Strategies
import TtyFrame.Proofs.Config.Overrides
import TtyFrame.Proofs.Config.Watching
import TtyFrame.Proofs.Connector.Loopback
import TtyFrame.Proofs.Engine
import TtyFrame.Proofs.Frame.Contents
import TtyFrame.Proofs.Frame.Hidden
import TtyFrame.Proofs.Frame.Reading
import TtyFrame.Proofs.Frame.Words
import TtyFrame.Proofs.Frame.Writing
import TtyFrame.Proofs.Palette.Table
import TtyFrame.Proofs.Pane.Access
import TtyFrame.Proofs.Pane.Counted
import TtyFrame.Proofs.Pane.Fallback
import TtyFrame.Proofs.Pane.History
import TtyFrame.Proofs.Pane.Input
import TtyFrame.Proofs.Pane.Limit
import TtyFrame.Proofs.Pane.Redraw
import TtyFrame.Proofs.Pane.Script
import TtyFrame.Proofs.Pane.Settings
import TtyFrame.Proofs.Presentation.Drain
import TtyFrame.Proofs.Presentation.Heard
import TtyFrame.Proofs.Presentation.InTurn
import TtyFrame.Proofs.Presentation.Interleaving
import TtyFrame.Proofs.Presentation.Programs
import TtyFrame.Proofs.Presentation.Record
import TtyFrame.Proofs.Screen.Continuation
import TtyFrame.Proofs.Screen.Framed
import TtyFrame.Proofs.Screen.Lawful
import TtyFrame.Proofs.Screen.Obeying
import TtyFrame.Proofs.Screen.Partition
import TtyFrame.Proofs.Screen.Printing
import TtyFrame.Proofs.Screen.Projection
import TtyFrame.Proofs.Screen.Reshaping
import TtyFrame.Proofs.Screen.Rewrapping
import TtyFrame.Proofs.Screen.Runs
import TtyFrame.Proofs.Screen.Shape
import TtyFrame.Proofs.Screen.Walk
import TtyFrame.Proofs.Screen.Window
import TtyFrame.Proofs.Screen.Written
import TtyFrame.Proofs.Scroll.Conserved
import TtyFrame.Proofs.Scroll.Exact
import TtyFrame.Proofs.Scroll.Machine
import TtyFrame.Proofs.Scroll.Pixels
import TtyFrame.Proofs.Scroll.Range
import TtyFrame.Proofs.Scroll.Script
import TtyFrame.Proofs.Session.Accounts
import TtyFrame.Proofs.Session.Cases
import TtyFrame.Proofs.Session.Lineage
import TtyFrame.Proofs.Session.Listeners
import TtyFrame.Proofs.Session.Mapping
import TtyFrame.Proofs.Session.Relay
import TtyFrame.Proofs.Session.Requests
import TtyFrame.Proofs.Session.Restart
import TtyFrame.Proofs.Session.Sizes
import TtyFrame.Proofs.Single.Whole
import TtyFrame.Proofs.Text.Hexadecimal
import TtyFrame.Proofs.Text.LineEnds
import TtyFrame.Proofs.Text.Trimming
import TtyFrame.Screen.Command
import TtyFrame.Screen.Engine
import TtyFrame.Screen.Erasing
import TtyFrame.Screen.Glyph
import TtyFrame.Screen.Grid
import TtyFrame.Screen.Lexer
import TtyFrame.Screen.Mode
import TtyFrame.Screen.Output
import TtyFrame.Screen.Override
import TtyFrame.Screen.Reflow
import TtyFrame.Screen.Rendition
import TtyFrame.Screen.Row
import TtyFrame.Screen.Sequence
import TtyFrame.Screen.State
import TtyFrame.Screen.View
import TtyFrame.Screen.Walk
import TtyFrame.Screen.Writing
import TtyFrame.Scroll
import TtyFrame.Scroll.Distance
import TtyFrame.Scroll.Machine
import TtyFrame.Session
import TtyFrame.Session.Listeners
import TtyFrame.Session.Worker
import TtyFrame.Single.Remainder
import TtyFrame.Size
import TtyFrame.Style
import TtyFrame.Text.Blank
import TtyFrame.Text.Bytes
import TtyFrame.Text.CodeRange
import TtyFrame.Text.Excerpt
import TtyFrame.Text.Extending
import TtyFrame.Text.Hex
import TtyFrame.Text.Ignorable
import TtyFrame.Text.LineEnd
import TtyFrame.Text.Quoted
import TtyFrame.Text.Unprintable
import TtyFrame.Text.Utf8
import TtyFrame.Text.Wide
import TtyFrame.Text.Width
import TtyFrame.Toml.Document
import TtyFrame.Toml.Moment
import TtyFrame.Toml.Node
import TtyFrame.Toml.Number
import TtyFrame.Toml.Token
import TtyFrame.Walkthrough
import TtyFrame.Word

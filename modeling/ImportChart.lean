import ImportChart.Command.Arguments
import ImportChart.Command.Run
import ImportChart.Diagram.Fence
import ImportChart.Diagram.Page
import ImportChart.Diagram.Render
import ImportChart.Document.Entry
import ImportChart.Document.Error
import ImportChart.Document.Lines
import ImportChart.Document.Moment
import ImportChart.Document.Number
import ImportChart.Document.Quoting
import ImportChart.Document.Reader
import ImportChart.Document.Shown
import ImportChart.Document.Value
import ImportChart.Document.Writer
import ImportChart.Export.Machine
import ImportChart.Export.Svg
import ImportChart.Flow
import ImportChart.Graph.Backbone
import ImportChart.Graph.Basic
import ImportChart.Graph.Build
import ImportChart.Ident.Allocator
import ImportChart.Ident.Basic
import ImportChart.Keyed
import ImportChart.Main
import ImportChart.Markup.Colour
import ImportChart.Markup.Emoji
import ImportChart.Markup.Emoji.Flags
import ImportChart.Markup.Emoji.People
import ImportChart.Markup.Emoji.Things
import ImportChart.Markup.Line
import ImportChart.Markup.Literal
import ImportChart.Markup.Style
import ImportChart.Number.Double
import ImportChart.Number.Shortest
import ImportChart.Path.Basic
import ImportChart.Proofs.Backbone.Drain
import ImportChart.Proofs.Backbone.Layers
import ImportChart.Proofs.Backbone.Order
import ImportChart.Proofs.Backbone.Repeated
import ImportChart.Proofs.Command.Drawing
import ImportChart.Proofs.Command.Effect
import ImportChart.Proofs.Command.Project
import ImportChart.Proofs.Command.Viewing
import ImportChart.Proofs.Diagram.Document
import ImportChart.Proofs.Diagram.Faithful
import ImportChart.Proofs.Diagram.Fence
import ImportChart.Proofs.Diagram.Page
import ImportChart.Proofs.Diagram.Recovery
import ImportChart.Proofs.Diagram.Statement
import ImportChart.Proofs.Diagram.Unfenced
import ImportChart.Proofs.Document.Cursor
import ImportChart.Proofs.Document.Hexadecimal
import ImportChart.Proofs.Document.Keys
import ImportChart.Proofs.Document.RoundTrip
import ImportChart.Proofs.Document.Simple
import ImportChart.Proofs.Document.Values
import ImportChart.Proofs.Export.Scratch
import ImportChart.Proofs.Export.Turns
import ImportChart.Proofs.Flow.Outputs
import ImportChart.Proofs.Graph.Distinct
import ImportChart.Proofs.Graph.Drawn
import ImportChart.Proofs.Graph.Imports
import ImportChart.Proofs.Graph.Labels
import ImportChart.Proofs.Graph.Limit
import ImportChart.Proofs.Graph.Nodes
import ImportChart.Proofs.Graph.Reordered
import ImportChart.Proofs.Graph.Symbols
import ImportChart.Proofs.Graph.Undisturbed
import ImportChart.Proofs.Graph.WellFormed
import ImportChart.Proofs.Ident.Allocation
import ImportChart.Proofs.Ident.Clashes
import ImportChart.Proofs.Ident.Log
import ImportChart.Proofs.Ident.Usable
import ImportChart.Proofs.Markup.Tagged
import ImportChart.Proofs.Number.Truncation
import ImportChart.Proofs.Path.Relative
import ImportChart.Proofs.Path.Rooted
import ImportChart.Proofs.Resolve
import ImportChart.Proofs.Scan.Extra
import ImportChart.Proofs.Scan.Flat
import ImportChart.Proofs.Scan.Lookup
import ImportChart.Proofs.Scan.Outputs
import ImportChart.Proofs.Scan.Tree
import ImportChart.Proofs.Scan.Walk
import ImportChart.Proofs.Settings.Denylist
import ImportChart.Proofs.Settings.Extensions
import ImportChart.Proofs.Settings.Failure
import ImportChart.Proofs.Settings.Home
import ImportChart.Proofs.Settings.Integers
import ImportChart.Proofs.Settings.Kept
import ImportChart.Proofs.Settings.Loading
import ImportChart.Proofs.Settings.Session
import ImportChart.Proofs.Settings.Stored
import ImportChart.Proofs.Settings.Unmoved
import ImportChart.Proofs.Source.Captures
import ImportChart.Proofs.Source.Coverage
import ImportChart.Proofs.Source.Line
import ImportChart.Proofs.Source.Listing
import ImportChart.Proofs.Source.Names
import ImportChart.Proofs.Source.Shapes
import ImportChart.Proofs.Source.Words
import ImportChart.Proofs.Text.Between
import ImportChart.Proofs.Text.Characters
import ImportChart.Proofs.Text.Integers
import ImportChart.Proofs.Text.Marker
import ImportChart.Proofs.Text.Numerals
import ImportChart.Proofs.Text.Runs
import ImportChart.Proofs.Text.Utf8
import ImportChart.Proofs.Tree.Changed
import ImportChart.Proofs.Tree.Files
import ImportChart.Proofs.Tree.Glance
import ImportChart.Proofs.Tree.Resolved
import ImportChart.Resolve
import ImportChart.Scan.Collect
import ImportChart.Scan.Policy
import ImportChart.Settings.Basic
import ImportChart.Settings.Effective
import ImportChart.Settings.Store
import ImportChart.Source.Extract
import ImportChart.Source.Pattern
import ImportChart.Text.Basic
import ImportChart.Text.Blank
import ImportChart.Text.Case
import ImportChart.Text.CaseTable
import ImportChart.Text.DigitTable
import ImportChart.Text.Letter
import ImportChart.Text.LetterTable
import ImportChart.Text.Numeral
import ImportChart.Text.PrintableTable
import ImportChart.Text.Quoted
import ImportChart.Text.Utf8
import ImportChart.Text.Width
import ImportChart.Text.WidthTable
import ImportChart.Tree.Basic
import ImportChart.Tree.Disk

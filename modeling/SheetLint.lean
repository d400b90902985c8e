import SheetLint.Count
import SheetLint.Json.Basic
import SheetLint.Json.Draft
import SheetLint.Json.Lexeme
import SheetLint.Json.Lexer
import SheetLint.Json.Number
import SheetLint.Json.Printer
import SheetLint.Json.Problem
import SheetLint.Json.Shortest
import SheetLint.Monitoring.Environment
import SheetLint.Monitoring.FileTree
import SheetLint.Monitoring.Filter
import SheetLint.Monitoring.Line
import SheetLint.Monitoring.Mode
import SheetLint.Monitoring.Mode.Json
import SheetLint.Monitoring.Path
import SheetLint.Monitoring.Session
import SheetLint.Monitoring.Sink
import SheetLint.Proofs.Json.Assembly
import SheetLint.Proofs.Json.Items
import SheetLint.Proofs.Json.Lexemes
import SheetLint.Proofs.Json.Order
import SheetLint.Proofs.Json.Whole
import SheetLint.Proofs.Monitoring.History
import SheetLint.Proofs.Monitoring.Listing
import SheetLint.Proofs.Monitoring.Mode.Fields
import SheetLint.Proofs.Monitoring.Mode.RoundTrip
import SheetLint.Proofs.Monitoring.Opening
import SheetLint.Proofs.Monitoring.SetUp
import SheetLint.Proofs.Monitoring.Way
import SheetLint.Proofs.Monitoring.Window
import SheetLint.Proofs.Selector.Agreement
import SheetLint.Proofs.Selector.Concatenation
import SheetLint.Proofs.Selector.Grammar
import SheetLint.Proofs.Selector.RoundTrip
import SheetLint.Proofs.Selector.Spacing
import SheetLint.Proofs.Selector.Spelling
import SheetLint.Proofs.Text.Pieces
import SheetLint.Proofs.Text.Quoted
import SheetLint.Proofs.Text.Slice
import SheetLint.Proofs.Text.Utf8
import SheetLint.Proofs.Tree.Circle
import SheetLint.Proofs.Tree.Depth
import SheetLint.Proofs.Tree.Following
import SheetLint.Proofs.Tree.Forest
import SheetLint.Proofs.Tree.Growth
import SheetLint.Proofs.Tree.History
import SheetLint.Proofs.Tree.Naming
import SheetLint.Proofs.Tree.Placement
import SheetLint.Proofs.Tree.Previous
import SheetLint.Proofs.Tree.Stability
import SheetLint.Proofs.Tree.Walk
import SheetLint.Proofs.Unicode.SmallLetters
import SheetLint.Proofs.Value.Body
import SheetLint.Proofs.Value.Canonical
import SheetLint.Proofs.Value.Concatenation
import SheetLint.Proofs.Value.Condensation
import SheetLint.Proofs.Value.Layout
import SheetLint.Proofs.Value.Leftover
import SheetLint.Proofs.Value.Occurrence
import SheetLint.Proofs.Value.Rgb
import SheetLint.Proofs.Value.Run
import SheetLint.Proofs.Value.Seam
import SheetLint.Proofs.Value.Settling
import SheetLint.Proofs.Value.Stripping
import SheetLint.Selector.Json
import SheetLint.Selector.Token
import SheetLint.Selector.Words
import SheetLint.Text.Pieces
import SheetLint.Text.Quoted
import SheetLint.Text.Slice
import SheetLint.Text.Utf8
import SheetLint.Trace.Event
import SheetLint.Tree.Arena
import SheetLint.Tree.Basic
import SheetLint.Tree.Table
import SheetLint.Unicode.Blank
import SheetLint.Unicode.Casing
import SheetLint.Unicode.CodeRange
import SheetLint.Unicode.Lowercase
import SheetLint.Unicode.Visible
import SheetLint.Unicode.Word
import SheetLint.Value.Color
import SheetLint.Value.Quote
import SheetLint.Value.Report

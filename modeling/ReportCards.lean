import ReportCards.Click.Machine
import ReportCards.Click.Operation
import ReportCards.Click.Program
import ReportCards.CommandLine.Arguments
import ReportCards.CommandLine.Output
import ReportCards.CommandLine.Run
import ReportCards.Decimal.Integer
import ReportCards.Decimal.Nearest
import ReportCards.Decimal.Notation
import ReportCards.Decimal.Shortest
import ReportCards.Document.Basic
import ReportCards.Document.Edit
import ReportCards.Document.Walk
import ReportCards.Error
import ReportCards.Fetch
import ReportCards.Json.Number
import ReportCards.Json.Reader
import ReportCards.Json.Value
import ReportCards.Main
import ReportCards.Markup.Element
import ReportCards.Markup.Escape
import ReportCards.Paging.Page
import ReportCards.Paging.Sizing
import ReportCards.Paging.Window
import ReportCards.Paging.Word
import ReportCards.Proofs.Click.Dispatch
import ReportCards.Proofs.Click.Reachable
import ReportCards.Proofs.Click.Reentrant
import ReportCards.Proofs.Click.Registration
import ReportCards.Proofs.Click.Settle
import ReportCards.Proofs.Click.Stack
import ReportCards.Proofs.Click.Stopping
import ReportCards.Proofs.CommandLine.Page
import ReportCards.Proofs.CommandLine.Render
import ReportCards.Proofs.Document.Attributes
import ReportCards.Proofs.Document.Change
import ReportCards.Proofs.Document.Forest
import ReportCards.Proofs.Document.Frame
import ReportCards.Proofs.Document.Growth
import ReportCards.Proofs.Document.Move
import ReportCards.Proofs.Document.Numbering
import ReportCards.Proofs.Document.Order
import ReportCards.Proofs.Document.Run
import ReportCards.Proofs.Document.Stepwise
import ReportCards.Proofs.Document.Subtree
import ReportCards.Proofs.Document.Tags
import ReportCards.Proofs.Document.Tidy
import ReportCards.Proofs.Document.Walks
import ReportCards.Proofs.Fetch.Outcome
import ReportCards.Proofs.Markup.Delimiters
import ReportCards.Proofs.Markup.Reader
import ReportCards.Proofs.Markup.References
import ReportCards.Proofs.Markup.Unambiguous
import ReportCards.Proofs.Paging.Exact
import ReportCards.Proofs.Paging.Partition
import ReportCards.Proofs.Paging.Placement
import ReportCards.Proofs.Paging.Window
import ReportCards.Proofs.Records.Reading
import ReportCards.Proofs.Records.Rectangular
import ReportCards.Proofs.Selector.Chain
import ReportCards.Proofs.Selector.Conjunction
import ReportCards.Proofs.Selector.Grammar
import ReportCards.Proofs.Selector.Layout
import ReportCards.Proofs.Selector.Progress
import ReportCards.Proofs.Selector.Query
import ReportCards.Proofs.Selector.QuotedValue
import ReportCards.Proofs.Selector.Scan
import ReportCards.Proofs.Selector.TagClass
import ReportCards.Proofs.Selector.Within
import ReportCards.Proofs.Session.Place
import ReportCards.Proofs.Session.Play
import ReportCards.Proofs.Session.Question
import ReportCards.Proofs.Text.Words
import ReportCards.Proofs.Widget.Active
import ReportCards.Proofs.Widget.Addressing
import ReportCards.Proofs.Widget.Card
import ReportCards.Proofs.Widget.Coherence
import ReportCards.Proofs.Widget.Contained
import ReportCards.Proofs.Widget.Contents
import ReportCards.Proofs.Widget.Control
import ReportCards.Proofs.Widget.Drawn
import ReportCards.Proofs.Widget.Emptying
import ReportCards.Proofs.Widget.FullPage
import ReportCards.Proofs.Widget.Handle
import ReportCards.Proofs.Widget.Neighbours
import ReportCards.Proofs.Widget.Pages
import ReportCards.Proofs.Widget.Placed
import ReportCards.Proofs.Widget.Report
import ReportCards.Proofs.Widget.Retired
import ReportCards.Proofs.Widget.Shared
import ReportCards.Proofs.Widget.Slot
import ReportCards.Proofs.Widget.Success
import ReportCards.Proofs.Widget.Table
import ReportCards.Proofs.Widget.Turning
import ReportCards.Records
import ReportCards.Selector.Basic
import ReportCards.Selector.Reader
import ReportCards.Session.Play
import ReportCards.Session.State
import ReportCards.Session.Step
import ReportCards.Settings
import ReportCards.Text.Blank
import ReportCards.Text.Digit
import ReportCards.Text.Quoted
import ReportCards.Text.Split
import ReportCards.Text.Unprintable
import ReportCards.Text.Utf8
import ReportCards.Toml.Draft
import ReportCards.Toml.Plain
import ReportCards.Toml.Reader
import ReportCards.Toml.Text
import ReportCards.Toml.Value
import ReportCards.Widget.Card
import ReportCards.Widget.Contents
import ReportCards.Widget.Notice
import ReportCards.Widget.Pager
import ReportCards.Widget.Report
import ReportCards.Widget.Table

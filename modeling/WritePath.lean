import WritePath.Address
import WritePath.CommandLine.Arguments
import WritePath.CommandLine.Failure
import WritePath.CommandLine.Import
import WritePath.CommandLine.Program
import WritePath.Decimal.Binary64
import WritePath.Decimal.Numeral
import WritePath.Decimal.Shortest
import WritePath.Disk
import WritePath.Disk.Description
import WritePath.Disk.Index
import WritePath.Document
import WritePath.Engine
import WritePath.Engine.Listing
import WritePath.Engine.Lodged
import WritePath.Engine.Memory
import WritePath.Failure
import WritePath.Failure.Closer
import WritePath.Failure.Journal
import WritePath.Failure.Report
import WritePath.Json.Form
import WritePath.Json.Outline
import WritePath.Json.Printer
import WritePath.Json.Reader
import WritePath.Json.Tree
import WritePath.Json.Value
import WritePath.Keyed
import WritePath.Label
import WritePath.Log
import WritePath.Main
import WritePath.Manager
import WritePath.Moment
import WritePath.Opening
import WritePath.Processor
import WritePath.Queue
import WritePath.Schema
import WritePath.Schema.Field
import WritePath.Schema.Identifier
import WritePath.Schema.Rules
import WritePath.Schema.Written
import WritePath.Session
import WritePath.Settings
import WritePath.Strategy
import WritePath.Text.Alphanumeric
import WritePath.Text.Base64
import WritePath.Text.Blank
import WritePath.Text.Hidden
import WritePath.Text.LowerCase
import WritePath.Text.Quoted
import WritePath.Text.Stem
import WritePath.Text.Unassigned
import WritePath.Text.Words
import WritePath.Toml.Reader
import WritePath.Toml.Scalar
import WritePath.Toml.Table
import WritePath.Toml.Text
import WritePath.Work
import WritePath.Workset
import WritePath.Proofs.CommandLine.Deepest
import WritePath.Proofs.CommandLine.Import
import WritePath.Proofs.CommandLine.Lines
import WritePath.Proofs.CommandLine.Pieces
import WritePath.Proofs.Decimal.Shortest
import WritePath.Proofs.Disk.Fading
import WritePath.Proofs.Document.Line
import WritePath.Proofs.Document.Stored
import WritePath.Proofs.Engine.Atomicity
import WritePath.Proofs.Engine.Chronicle
import WritePath.Proofs.Engine.Editions
import WritePath.Proofs.Engine.Generations
import WritePath.Proofs.Engine.LastWrites
import WritePath.Proofs.Engine.Recorded
import WritePath.Proofs.Engine.Shelf
import WritePath.Proofs.Engine.Staging
import WritePath.Proofs.Engine.Upsert
import WritePath.Proofs.Engine.Watched
import WritePath.Proofs.Failure.Closing
import WritePath.Proofs.Json.AsWritten
import WritePath.Proofs.Json.Members
import WritePath.Proofs.Json.Nesting
import WritePath.Proofs.Json.Numerals
import WritePath.Proofs.Json.Passing
import WritePath.Proofs.Json.Quoted
import WritePath.Proofs.Json.Regular
import WritePath.Proofs.Json.RoundTrip
import WritePath.Proofs.Json.Steps
import WritePath.Proofs.Manager.Freshness
import WritePath.Proofs.Manager.Opening
import WritePath.Proofs.Manager.Twins
import WritePath.Proofs.Processor.Calls
import WritePath.Proofs.Processor.Delivery
import WritePath.Proofs.Processor.Editions
import WritePath.Proofs.Processor.Lasting
import WritePath.Proofs.Processor.Misuse
import WritePath.Proofs.Processor.Muted
import WritePath.Proofs.Processor.Naturality
import WritePath.Proofs.Processor.Pending
import WritePath.Proofs.Processor.Poisoning
import WritePath.Proofs.Processor.Reports
import WritePath.Proofs.Processor.Strategies
import WritePath.Proofs.Processor.Turns
import WritePath.Proofs.Queue.Commits
import WritePath.Proofs.Queue.Conservation
import WritePath.Proofs.Queue.Endings
import WritePath.Proofs.Queue.Exposure
import WritePath.Proofs.Queue.Independence
import WritePath.Proofs.Queue.Ledger
import WritePath.Proofs.Queue.Meddling
import WritePath.Proofs.Queue.Prefixes
import WritePath.Proofs.Queue.Protocol
import WritePath.Proofs.Queue.Replay
import WritePath.Proofs.Queue.Run
import WritePath.Proofs.Queue.Schedule
import WritePath.Proofs.Queue.Service
import WritePath.Proofs.Queue.Spacing
import WritePath.Proofs.Settings.Limits
import WritePath.Proofs.Settings.Partial
import WritePath.Proofs.Toml.Lines
import WritePath.Proofs.Toml.Quoted
import WritePath.Proofs.Workset.Conclusion
import WritePath.Proofs.Workset.Containment
import WritePath.Proofs.Workset.Sequel

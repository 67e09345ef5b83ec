import TestTelemetry.Data.Pieces
import TestTelemetry.Data.OrderedMap
import TestTelemetry.Data.Keyed
import TestTelemetry.Text.Blank
import TestTelemetry.Text.Lines
import TestTelemetry.Text.Utf8
import TestTelemetry.Text.Raw
import TestTelemetry.Text.Digit
import TestTelemetry.Text.Alphabet
import TestTelemetry.Text.Pattern
import TestTelemetry.Decimal.Shortest
import TestTelemetry.Decimal.Numeral
import TestTelemetry.Json.Value
import TestTelemetry.Json.Node
import TestTelemetry.Json.Reader
import TestTelemetry.Json.Decoder
import TestTelemetry.Json.Lookup
import TestTelemetry.Files.Path
import TestTelemetry.Files.Tree
import TestTelemetry.Files.Walk
import TestTelemetry.Settings.Basic
import TestTelemetry.Settings.Codec
import TestTelemetry.Repository.Index
import TestTelemetry.Outcome.Status
import TestTelemetry.Outcome.Tags
import TestTelemetry.Coverage.Store
import TestTelemetry.Coverage.Analysis
import TestTelemetry.Coverage.Bundle
import TestTelemetry.Coverage.Report
import TestTelemetry.Network.Address
import TestTelemetry.Outcome.ModuleResult
import TestTelemetry.Lifecycle.Activation
import TestTelemetry.Lifecycle.Run
import TestTelemetry.Lifecycle.Item
import TestTelemetry.Text.Visible
import TestTelemetry.Text.Quoted
import TestTelemetry.Environment.Basic
import TestTelemetry.Environment.Getters
import TestTelemetry.Environment.Logging
import TestTelemetry.Signal.Basic
import TestTelemetry.Signal.Codec
import TestTelemetry.Signal.Client
import TestTelemetry.Signal.Peer
import TestTelemetry.Worker.Event
import TestTelemetry.Worker.Handler
import TestTelemetry.Worker.Replay
import TestTelemetry.Worker.Config
import TestTelemetry.Repository.Scan
import TestTelemetry.Session.Attempt
import TestTelemetry.Session.Registry
import TestTelemetry.Session.Aggregator
import TestTelemetry.Session.SettingsCache
import TestTelemetry.Session.Server
import TestTelemetry.Session.Basic
import TestTelemetry.Session.Summary
import TestTelemetry.Toml.Value
import TestTelemetry.Toml.Quoted
import TestTelemetry.Toml.Scalar
import TestTelemetry.Toml.Reader
import TestTelemetry.Session.Config
import TestTelemetry.CommandLine.Options
import TestTelemetry.CommandLine.Command
import TestTelemetry.CommandLine.Worker
import TestTelemetry.CommandLine.Session
import TestTelemetry.CommandLine.Circumstances
import TestTelemetry.Main
import TestTelemetry.Proofs.Lifecycle.Step
import TestTelemetry.Proofs.Lifecycle.SuiteEnd
import TestTelemetry.Proofs.Data.Gather
import TestTelemetry.Proofs.Worker.Script
import TestTelemetry.Proofs.Coverage.Merge
import TestTelemetry.Proofs.Data.Keyed
import TestTelemetry.Proofs.Session.DeliveryOrder
import TestTelemetry.Proofs.Worker.Account
import TestTelemetry.Proofs.Worker.Completion
import TestTelemetry.Proofs.Worker.FailureReport
import TestTelemetry.Proofs.Worker.ModuleOutcome
import TestTelemetry.Proofs.Coverage.Algebra
import TestTelemetry.Proofs.Session.Step
import TestTelemetry.Proofs.Session.Roster
import TestTelemetry.Proofs.Session.RosterSteps
import TestTelemetry.Proofs.Session.Signals
import TestTelemetry.Proofs.Session.ModuleAccount
import TestTelemetry.Proofs.Data.Pieces
import TestTelemetry.Proofs.Text.Utf8
import TestTelemetry.Proofs.Decimal.Natural
import TestTelemetry.Proofs.Json.Escape
import TestTelemetry.Proofs.Json.Plain
import TestTelemetry.Proofs.Json.Reading
import TestTelemetry.Proofs.Json.RoundTrip
import TestTelemetry.Proofs.Settings.RoundTrip
import TestTelemetry.Proofs.Signal.RoundTrip
import TestTelemetry.Proofs.Signal.Wire
import TestTelemetry.Proofs.Session.Connections
import TestTelemetry.Proofs.Data.Growth
import TestTelemetry.Proofs.Lifecycle.ItemState
import TestTelemetry.Proofs.Lifecycle.Evolution
import TestTelemetry.Proofs.Lifecycle.Ended
import TestTelemetry.Proofs.Lifecycle.Conservation
import TestTelemetry.Proofs.Lifecycle.EndOrder
import TestTelemetry.Proofs.Worker.Operations
import TestTelemetry.Proofs.Lifecycle.Sites
import TestTelemetry.Proofs.Worker.Tables
import TestTelemetry.Proofs.Worker.Balance
import TestTelemetry.Proofs.Lifecycle.Handover
import TestTelemetry.Proofs.Worker.OneResult
import TestTelemetry.Proofs.Coverage.Counters
import TestTelemetry.Proofs.Data.OrderedMap
import TestTelemetry.Proofs.Session.SettingsOnce
import TestTelemetry.Proofs.Settings.Narrow
import TestTelemetry.Proofs.Worker.Narrowing
import TestTelemetry.Proofs.Session.EndsOnce
import TestTelemetry.Proofs.Environment.Getters
import TestTelemetry.Proofs.Session.Overlay
import TestTelemetry.Proofs.Session.ByteLines
import TestTelemetry.Proofs.Lifecycle.FlakeShare
import TestTelemetry.Proofs.Worker.SkipCount
import TestTelemetry.Proofs.Coverage.Union
import TestTelemetry.Proofs.Coverage.Monotone
import TestTelemetry.Proofs.Data.Sorting
import TestTelemetry.Proofs.Coverage.Analyses
import TestTelemetry.Proofs.Coverage.Disjoint
import TestTelemetry.Proofs.Session.Accepted
import TestTelemetry.Proofs.Session.FinalTags
import TestTelemetry.Proofs.Session.SkippedTotal
import TestTelemetry.Proofs.Coverage.Credit
import TestTelemetry.Proofs.Files.Path
import TestTelemetry.Proofs.Files.Tree
import TestTelemetry.Proofs.Coverage.Loading
import TestTelemetry.Proofs.Coverage.Folders
import TestTelemetry.Proofs.Text.ByteOrder
import TestTelemetry.Proofs.Coverage.SourceLines
import TestTelemetry.Proofs.Coverage.Trace
import TestTelemetry.Proofs.Repository.Lookup
import TestTelemetry.Proofs.Settings.Projection
import TestTelemetry.Proofs.Text.Lossy
import TestTelemetry.Proofs.Text.Raw
import TestTelemetry.Proofs.Text.Trim
import TestTelemetry.Proofs.Repository.Declaration
import TestTelemetry.Proofs.Repository.Head
import TestTelemetry.Proofs.Files.Listing
import TestTelemetry.Proofs.Files.Walk
import TestTelemetry.Proofs.Repository.Indexing
import TestTelemetry.Proofs.Network.Groups
import TestTelemetry.Proofs.Network.Address
import TestTelemetry.Proofs.Environment.Numerals
import TestTelemetry.Proofs.Environment.Sources
import TestTelemetry.Proofs.Worker.Faults
import TestTelemetry.Proofs.Worker.Discovery
import TestTelemetry.Proofs.Lifecycle.Nesting
import TestTelemetry.Proofs.Json.LineEnd
import TestTelemetry.Proofs.Worker.EventText
import TestTelemetry.Proofs.Worker.Replaying
import TestTelemetry.Proofs.Session.ReportTags
import TestTelemetry.Proofs.Lifecycle.Conclusion
import TestTelemetry.Proofs.Worker.LeftOpen
import TestTelemetry.Proofs.Repository.Namesakes
import TestTelemetry.Proofs.Outcome.TagHistory

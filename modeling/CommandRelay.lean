import CommandRelay.Bus.Channel
import CommandRelay.Bus.Local
import CommandRelay.Bus.LocalRun
import CommandRelay.Bus.Task
import CommandRelay.Catalogue.Device
import CommandRelay.Catalogue.Listing
import CommandRelay.Catalogue.Paging
import CommandRelay.Catalogue.Routing
import CommandRelay.Config.Basic
import CommandRelay.Config.Record
import CommandRelay.Config.Store
import CommandRelay.Correlation.Desk
import CommandRelay.Correlation.DeskRun
import CommandRelay.Daemon.Drive
import CommandRelay.Daemon.Run
import CommandRelay.Datum
import CommandRelay.Decimal.Binary64
import CommandRelay.Decimal.Power
import CommandRelay.Decimal.Shortest
import CommandRelay.Delivery
import CommandRelay.Duration
import CommandRelay.Envelope.Basic
import CommandRelay.Envelope.Check
import CommandRelay.Envelope.Wire
import CommandRelay.Event
import CommandRelay.Fault
import CommandRelay.Json.Canonical
import CommandRelay.Json.Document
import CommandRelay.Json.Number
import CommandRelay.Json.Printer
import CommandRelay.Json.Token
import CommandRelay.Json.Value
import CommandRelay.Launch.Arguments
import CommandRelay.Launch.Directive
import CommandRelay.Launch.Filter
import CommandRelay.Launch.Level
import CommandRelay.Launch.Pattern
import CommandRelay.Launch.Start
import CommandRelay.Main
import CommandRelay.Method
import CommandRelay.Mqtt.Bus
import CommandRelay.Mqtt.Client
import CommandRelay.Mqtt.Options
import CommandRelay.Mqtt.Run
import CommandRelay.Proofs.Bus.Answers
import CommandRelay.Proofs.Bus.Channel
import CommandRelay.Proofs.Bus.Delivery
import CommandRelay.Proofs.Bus.Ledger
import CommandRelay.Proofs.Bus.LocalRun
import CommandRelay.Proofs.Bus.Subscribers
import CommandRelay.Proofs.Bus.Task
import CommandRelay.Proofs.Bus.Unread
import CommandRelay.Proofs.Catalogue.Listing
import CommandRelay.Proofs.Catalogue.Pages
import CommandRelay.Proofs.Catalogue.Paging
import CommandRelay.Proofs.Catalogue.Parameters
import CommandRelay.Proofs.Catalogue.Routing
import CommandRelay.Proofs.Config.Effective
import CommandRelay.Proofs.Config.Layout
import CommandRelay.Proofs.Config.Saved
import CommandRelay.Proofs.Config.Spelled
import CommandRelay.Proofs.Config.Stored
import CommandRelay.Proofs.Correlation.Delivered
import CommandRelay.Proofs.Correlation.Early
import CommandRelay.Proofs.Correlation.InFlight
import CommandRelay.Proofs.Correlation.Interleaved
import CommandRelay.Proofs.Correlation.Isolation
import CommandRelay.Proofs.Correlation.Matching
import CommandRelay.Proofs.Correlation.Renaming
import CommandRelay.Proofs.Correlation.Run
import CommandRelay.Proofs.Correlation.Settled
import CommandRelay.Proofs.Correlation.Settling
import CommandRelay.Proofs.Correlation.Shared
import CommandRelay.Proofs.Correlation.Tickets
import CommandRelay.Proofs.Daemon.Drive
import CommandRelay.Proofs.Daemon.Farewell
import CommandRelay.Proofs.Daemon.Links
import CommandRelay.Proofs.Envelope.Acceptance
import CommandRelay.Proofs.Envelope.Checking
import CommandRelay.Proofs.Envelope.Head
import CommandRelay.Proofs.Envelope.RoundTrip
import CommandRelay.Proofs.Json.Building
import CommandRelay.Proofs.Json.Given
import CommandRelay.Proofs.Json.Grammar
import CommandRelay.Proofs.Json.Lexing
import CommandRelay.Proofs.Json.Reading
import CommandRelay.Proofs.Json.Spelling
import CommandRelay.Proofs.Launch.Startup
import CommandRelay.Proofs.Mqtt.Admission
import CommandRelay.Proofs.Mqtt.Agreement
import CommandRelay.Proofs.Mqtt.Answers
import CommandRelay.Proofs.Mqtt.Deadline
import CommandRelay.Proofs.Mqtt.InFlight
import CommandRelay.Proofs.Mqtt.Queue
import CommandRelay.Proofs.Mqtt.Replies
import CommandRelay.Proofs.Mqtt.Run
import CommandRelay.Proofs.Mqtt.Tracked
import CommandRelay.Proofs.Relay.Accounting
import CommandRelay.Proofs.Relay.Addressing
import CommandRelay.Proofs.Relay.Command
import CommandRelay.Proofs.Relay.Concurrent
import CommandRelay.Proofs.Relay.CrossTalk
import CommandRelay.Proofs.Relay.DeadLetters
import CommandRelay.Proofs.Relay.Echo
import CommandRelay.Proofs.Relay.Gatekeeping
import CommandRelay.Proofs.Relay.Link
import CommandRelay.Proofs.Relay.Mirroring
import CommandRelay.Proofs.Relay.Moves
import CommandRelay.Proofs.Relay.Packets
import CommandRelay.Proofs.Relay.Progress
import CommandRelay.Proofs.Relay.Query
import CommandRelay.Proofs.Relay.Reporting
import CommandRelay.Proofs.Relay.Sharing
import CommandRelay.Proofs.Relay.Subscribing
import CommandRelay.Proofs.Relay.Subtree
import CommandRelay.Proofs.Relay.Trace
import CommandRelay.Proofs.Relay.Underway
import CommandRelay.Proofs.Storage.Directories
import CommandRelay.Proofs.Storage.Places
import CommandRelay.Proofs.Text.Base64
import CommandRelay.Proofs.Text.Numerals
import CommandRelay.Proofs.Text.Trimming
import CommandRelay.Proofs.Text.Utf8
import CommandRelay.Proofs.Text.Utf8Order
import CommandRelay.Proofs.Toml.Lines
import CommandRelay.Proofs.Toml.RoundTrip
import CommandRelay.Proofs.Toml.Statements
import CommandRelay.Proofs.Toml.Tables
import CommandRelay.Proofs.Topic.Joining
import CommandRelay.Proofs.Topic.Matching
import CommandRelay.Proofs.Topic.Normal
import CommandRelay.Relay.Handler
import CommandRelay.Relay.Program
import CommandRelay.Relay.Session
import CommandRelay.Relay.Settings
import CommandRelay.Relay.World
import CommandRelay.Storage.FileSystem
import CommandRelay.Storage.Path
import CommandRelay.Text.Alphanumeric
import CommandRelay.Text.Base64
import CommandRelay.Text.Blank
import CommandRelay.Text.Digits
import CommandRelay.Text.Hidden
import CommandRelay.Text.Quoted
import CommandRelay.Text.Ranges
import CommandRelay.Text.Split
import CommandRelay.Text.Utf8
import CommandRelay.Text.Uuid
import CommandRelay.Toml.Document
import CommandRelay.Toml.Printer
import CommandRelay.Toml.Scalar
import CommandRelay.Toml.Table
import CommandRelay.Toml.Text
import CommandRelay.Toml.Value
import CommandRelay.Topic.Address
import CommandRelay.Topic.Filter
import CommandRelay.Topic.Level
import CommandRelay.Topic.Map
import CommandRelay.Wording

import LiveBoard.Api.Call
import LiveBoard.Api.Client
import LiveBoard.Api.Error
import LiveBoard.Api.Request
import LiveBoard.Api.Wire
import LiveBoard.Binary64.Basic
import LiveBoard.Binary64.Shortest
import LiveBoard.Board.Action
import LiveBoard.Board.Entity
import LiveBoard.Board.Patch
import LiveBoard.Board.State
import LiveBoard.Board.Store
import LiveBoard.Board.Terms
import LiveBoard.Board.View
import LiveBoard.Cli.Command
import LiveBoard.Cli.Context
import LiveBoard.Cli.Execution
import LiveBoard.Cli.Failure
import LiveBoard.Cli.Grammar
import LiveBoard.Cli.Program
import LiveBoard.Cli.Watch
import LiveBoard.Environment.Basic
import LiveBoard.Environment.Dotenv
import LiveBoard.Instant.Basic
import LiveBoard.Instant.Calendar
import LiveBoard.Instant.Printer
import LiveBoard.Instant.Reader
import LiveBoard.Json.Basic
import LiveBoard.Json.Codec
import LiveBoard.Json.Document
import LiveBoard.Json.Fault
import LiveBoard.Json.Printer
import LiveBoard.Json.Reader
import LiveBoard.Json.Record
import LiveBoard.Json.Shape
import LiveBoard.Main
import LiveBoard.Proofs.Api.Addressing
import LiveBoard.Proofs.Board.Arrivals
import LiveBoard.Proofs.Board.Assignees
import LiveBoard.Proofs.Board.Commuting
import LiveBoard.Proofs.Board.Composing
import LiveBoard.Proofs.Board.Counters
import LiveBoard.Proofs.Board.Dispatching
import LiveBoard.Proofs.Board.Effects
import LiveBoard.Proofs.Board.Forging
import LiveBoard.Proofs.Board.Interleaving
import LiveBoard.Proofs.Board.Invariant
import LiveBoard.Proofs.Board.Keyed
import LiveBoard.Proofs.Board.Kinds
import LiveBoard.Proofs.Board.Lasting
import LiveBoard.Proofs.Board.Listing
import LiveBoard.Proofs.Board.Merge
import LiveBoard.Proofs.Board.Merging
import LiveBoard.Proofs.Board.Posting
import LiveBoard.Proofs.Board.Ranking
import LiveBoard.Proofs.Board.Repeating
import LiveBoard.Proofs.Board.Replay
import LiveBoard.Proofs.Board.Resending
import LiveBoard.Proofs.Board.RoundTrip
import LiveBoard.Proofs.Board.Runs
import LiveBoard.Proofs.Board.Threads
import LiveBoard.Proofs.Board.Untouched
import LiveBoard.Proofs.Board.Upserting
import LiveBoard.Proofs.Cli.Deciding
import LiveBoard.Proofs.Cli.SigningIn
import LiveBoard.Proofs.Instant.Calendar
import LiveBoard.Proofs.Instant.Days
import LiveBoard.Proofs.Instant.Outside
import LiveBoard.Proofs.Instant.RoundTrip
import LiveBoard.Proofs.Instant.Shortest
import LiveBoard.Proofs.Instant.Sorting
import LiveBoard.Proofs.Instant.Stamps
import LiveBoard.Proofs.Json.Finite
import LiveBoard.Proofs.Json.Readings
import LiveBoard.Proofs.Json.Record
import LiveBoard.Proofs.Json.Settling
import LiveBoard.Proofs.Screen.Shortening
import LiveBoard.Proofs.Stream.Borders
import LiveBoard.Proofs.Stream.Chunking
import LiveBoard.Proofs.Stream.Cursors
import LiveBoard.Proofs.Stream.Cuttings
import LiveBoard.Proofs.Stream.Discarding
import LiveBoard.Proofs.Stream.Following
import LiveBoard.Proofs.Stream.Lines
import LiveBoard.Proofs.Stream.Pieces
import LiveBoard.Proofs.Stream.Stopping
import LiveBoard.Proofs.Stream.Wear
import LiveBoard.Proofs.Sync.Changes
import LiveBoard.Proofs.Sync.Clearing
import LiveBoard.Proofs.Sync.Deciding
import LiveBoard.Proofs.Sync.Echoes
import LiveBoard.Proofs.Sync.Flight
import LiveBoard.Proofs.Sync.Gating
import LiveBoard.Proofs.Sync.Reporting
import LiveBoard.Proofs.Sync.Rollback
import LiveBoard.Proofs.Sync.Unconfirmed
import LiveBoard.Proofs.Sync.Withdrawal
import LiveBoard.Proofs.Text.Utf8
import LiveBoard.Proofs.Url.Escapes
import LiveBoard.Proofs.Url.Paths
import LiveBoard.Screen.Board
import LiveBoard.Screen.Style
import LiveBoard.Settings.Basic
import LiveBoard.Settings.Document
import LiveBoard.Settings.File
import LiveBoard.Settings.Layers
import LiveBoard.Stream.Feed
import LiveBoard.Stream.Frame
import LiveBoard.Stream.Subscriber
import LiveBoard.Sync.Error
import LiveBoard.Sync.Exchange
import LiveBoard.Sync.Mutation
import LiveBoard.Sync.Session
import LiveBoard.Text.Alphanumeric
import LiveBoard.Text.Blank
import LiveBoard.Text.Case
import LiveBoard.Text.LineBreak
import LiveBoard.Text.Paragraph
import LiveBoard.Text.Quoted
import LiveBoard.Text.Ranges
import LiveBoard.Text.Utf8
import LiveBoard.Text.Width
import LiveBoard.Toml.Basic
import LiveBoard.Toml.Printer
import LiveBoard.Toml.Reader
import LiveBoard.Toml.Scalar
import LiveBoard.Url.Basic
import LiveBoard.Url.Host
import LiveBoard.Url.Percent

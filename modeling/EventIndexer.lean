import EventIndexer.Backfill
import EventIndexer.Channel
import EventIndexer.CommandLine.Command
import EventIndexer.CommandLine.Grammar
import EventIndexer.Cursor
import EventIndexer.Decode
import EventIndexer.Delivery
import EventIndexer.Duration
import EventIndexer.Engine
import EventIndexer.Event
import EventIndexer.Failure
import EventIndexer.Feed
import EventIndexer.Hex
import EventIndexer.Json
import EventIndexer.Json.Parse
import EventIndexer.Json.Raw
import EventIndexer.Keccak
import EventIndexer.Kind
import EventIndexer.Main
import EventIndexer.Node.Client
import EventIndexer.Node.Error
import EventIndexer.Percent
import EventIndexer.Progress
import EventIndexer.Proofs.Interference
import EventIndexer.Proofs.Rows
import EventIndexer.Proofs.Source
import EventIndexer.Proofs.Stitching
import EventIndexer.Query
import EventIndexer.Quote
import EventIndexer.Range
import EventIndexer.Retry
import EventIndexer.Routine
import EventIndexer.Settings
import EventIndexer.Simulation.Bench
import EventIndexer.Simulation.Play
import EventIndexer.Simulation.Script
import EventIndexer.Simulation.Server
import EventIndexer.Simulation.Sink
import EventIndexer.Simulation.Stage
import EventIndexer.Split
import EventIndexer.Store.Database
import EventIndexer.Store.Location
import EventIndexer.Store.Opening
import EventIndexer.Store.Rewards
import EventIndexer.Tracker
import EventIndexer.Unicode.Canonical
import EventIndexer.Unicode.Category
import EventIndexer.Unicode.Direction
import EventIndexer.Unicode.Joining
import EventIndexer.Unicode.Table
import EventIndexer.Url
import EventIndexer.Url.Domain
import EventIndexer.Url.Host
import EventIndexer.Url.Mapping
import EventIndexer.Url.Punycode
import EventIndexer.Utf8
import EventIndexer.Watcher
import EventIndexer.Word
import EventIndexer.Proofs.Ownership
import EventIndexer.Proofs.Tasks
import EventIndexer.Proofs.Moves
import EventIndexer.Proofs.Runs
import EventIndexer.Proofs.CursorOrder
import EventIndexer.Proofs.Scope
import EventIndexer.Proofs.Flow
import EventIndexer.Proofs.History
import EventIndexer.Proofs.Places
import EventIndexer.Proofs.Replay
import EventIndexer.Proofs.Pipe
import EventIndexer.Proofs.Filled
import EventIndexer.Proofs.Polling
import EventIndexer.Proofs.Settling
import EventIndexer.Proofs.Undisturbed
import EventIndexer.Proofs.Frank
import EventIndexer.Proofs.Supervision
import EventIndexer.Proofs.Resting
import EventIndexer.Proofs.Agreement
import EventIndexer.Proofs.Encoding
import EventIndexer.Proofs.FirstWrite
import EventIndexer.Proofs.Shutdown
import EventIndexer.Proofs.Resuming
import EventIndexer.Proofs.Tiling
import EventIndexer.Proofs.Faults
import EventIndexer.Proofs.Boundaries
import EventIndexer.Proofs.Pacing
import EventIndexer.Proofs.Acceptance
import EventIndexer.Proofs.Attempts
import EventIndexer.Proofs.Advancing
import EventIndexer.Proofs.Totals
import EventIndexer.Proofs.Selecting
import EventIndexer.Proofs.Recipients
import EventIndexer.Proofs.Limits
import EventIndexer.Proofs.Owners
import EventIndexer.Proofs.HighWater
import EventIndexer.Proofs.Halting
import EventIndexer.Proofs.Desk
import EventIndexer.Proofs.KindSets
import EventIndexer.Proofs.Slowest

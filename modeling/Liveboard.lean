import Liveboard.Board.Basic
import Liveboard.Board.Watcher
import Liveboard.Channel.Driver
import Liveboard.Channel.Error
import Liveboard.Channel.Link
import Liveboard.Channel.Socket
import Liveboard.Channel.State
import Liveboard.Channel.Status
import Liveboard.Command.Arguments
import Liveboard.Command.Folder
import Liveboard.Command.Run
import Liveboard.Command.Watch
import Liveboard.Decimal.Binary
import Liveboard.Decimal.Layout
import Liveboard.Decimal.Reading
import Liveboard.Decimal.Shortest
import Liveboard.Engine.Basic
import Liveboard.Engine.Settings
import Liveboard.Fetch.Api
import Liveboard.Fetch.Client
import Liveboard.Fetch.Error
import Liveboard.Json.Document
import Liveboard.Json.Reading
import Liveboard.Json.Value
import Liveboard.Json.Writing
import Liveboard.Main
import Liveboard.Metrics.Count
import Liveboard.Metrics.Event
import Liveboard.Metrics.Mean
import Liveboard.Metrics.Meter
import Liveboard.Metrics.Payload
import Liveboard.Metrics.Period
import Liveboard.Metrics.SnapshotCache
import Liveboard.Metrics.View
import Liveboard.Notation.Ini
import Liveboard.Notation.Toml.Reading
import Liveboard.Notation.Toml.Scalar
import Liveboard.Notation.Toml.Table
import Liveboard.Notation.Yaml.Reading
import Liveboard.Notation.Yaml.Scalar
import Liveboard.Registry.Basic
import Liveboard.Registry.Callback
import Liveboard.Settings.Basic
import Liveboard.Settings.Filter
import Liveboard.Settings.Layer
import Liveboard.Settings.Loading
import Liveboard.Settings.Logging
import Liveboard.Settings.Loose
import Liveboard.Settings.Validation
import Liveboard.Shutdown
import Liveboard.Simulation.Session
import Liveboard.Simulation.Source
import Liveboard.Simulation.Transport
import Liveboard.Simulation.World
import Liveboard.Text.Alphanumeric
import Liveboard.Text.Blank
import Liveboard.Text.CodePoint
import Liveboard.Text.Printable
import Liveboard.Text.Quoted
import Liveboard.Text.Utf8
import Liveboard.Timing.Backoff
import Liveboard.Timing.Span
import Liveboard.Timing.SpanText
import Liveboard.Url.Basic
import Liveboard.Url.Channel
import Liveboard.Url.Domain
import Liveboard.Url.Host
import Liveboard.Url.Percent
import Liveboard.Url.Punycode
import Liveboard.Wire.Fault
import Liveboard.Wire.Record
import Liveboard.Wire.Scalar
import Liveboard.Wire.Text
import Liveboard.Proofs.Engine.Run
import Liveboard.Proofs.Board.Moment
import Liveboard.Proofs.Board.Reconnect
import Liveboard.Proofs.Engine.Requests
import Liveboard.Proofs.Engine.Fetching
import Liveboard.Proofs.Engine.Superseded
import Liveboard.Proofs.Channel.Course
import Liveboard.Proofs.Channel.Standing
import Liveboard.Proofs.Channel.Attempts
import Liveboard.Proofs.Board.Deliveries
import Liveboard.Proofs.Channel.Trace
import Liveboard.Proofs.Board.Trace
import Liveboard.Proofs.Board.Overlap
import Liveboard.Proofs.Registry.Delivery
import Liveboard.Proofs.Board.Standstill
import Liveboard.Proofs.Board.Files
import Liveboard.Proofs.Board.Teardown
import Liveboard.Proofs.Engine.Caching
import Liveboard.Proofs.Registry.Roster
import Liveboard.Proofs.Board.Caches
import Liveboard.Proofs.Board.Watching
import Liveboard.Proofs.Board.Listening
import Liveboard.Proofs.Board.Availability
import Liveboard.Proofs.Registry.Crowd
import Liveboard.Proofs.Metrics.Averages
import Liveboard.Proofs.Wire.Reading
import Liveboard.Proofs.Channel.Schedule
import Liveboard.Proofs.Wire.Retraction
import Liveboard.Proofs.Fetch.Addresses
import Liveboard.Proofs.Fetch.Cancelling
import Liveboard.Proofs.Decimal.Order
import Liveboard.Proofs.Settings.Rules
import Liveboard.Proofs.Timing.Seconds
import Liveboard.Proofs.Timing.Delays
import Liveboard.Proofs.Settings.Delays
import Liveboard.Proofs.Decimal.Spelling
import Liveboard.Proofs.Settings.Environment
import Liveboard.Proofs.Settings.Layers
import Liveboard.Proofs.Text.Splitting

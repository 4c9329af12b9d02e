import Cadence.Bench.Basic
import Cadence.Bench.EventLog
import Cadence.Buffer.Basic
import Cadence.Buffer.Latest
import Cadence.Buffer.Queue
import Cadence.Buffer.Window
import Cadence.Decimal.Reader
import Cadence.Decimal.Shortest
import Cadence.Decoupler.Basic
import Cadence.Engine.Action
import Cadence.Engine.Basic
import Cadence.Engine.Quiet
import Cadence.Event.Basic
import Cadence.Event.Kind
import Cadence.Executor.Basic
import Cadence.Executor.ThreadName
import Cadence.Failure
import Cadence.Journal
import Cadence.Metrics.Exposition
import Cadence.Metrics.Meters
import Cadence.Pacer.Basic
import Cadence.Pacer.Quiet
import Cadence.Pacer.Run
import Cadence.Payload.Basic
import Cadence.Payload.Samples
import Cadence.Payload.Support
import Cadence.Proofs.Bench.Draining
import Cadence.Proofs.Buffer.Access
import Cadence.Proofs.Buffer.Bounded
import Cadence.Proofs.Buffer.Queued
import Cadence.Proofs.Buffer.Windowed
import Cadence.Proofs.Engine.Balance
import Cadence.Proofs.Engine.Books
import Cadence.Proofs.Engine.Capacity
import Cadence.Proofs.Engine.Carried
import Cadence.Proofs.Engine.Closing
import Cadence.Proofs.Engine.Connections
import Cadence.Proofs.Engine.Conservation
import Cadence.Proofs.Engine.Counters
import Cadence.Proofs.Engine.Driving
import Cadence.Proofs.Engine.Effects
import Cadence.Proofs.Engine.Flight
import Cadence.Proofs.Engine.Inertness
import Cadence.Proofs.Engine.Interleaving
import Cadence.Proofs.Engine.Outline
import Cadence.Proofs.Engine.Places
import Cadence.Proofs.Engine.Promptness
import Cadence.Proofs.Engine.Readiness
import Cadence.Proofs.Engine.Run
import Cadence.Proofs.Engine.Scenes
import Cadence.Proofs.Engine.SingleFlight
import Cadence.Proofs.Engine.Stages
import Cadence.Proofs.Engine.Submissions
import Cadence.Proofs.Engine.Tracking
import Cadence.Proofs.Executor.Progress
import Cadence.Proofs.Executor.Worker
import Cadence.Proofs.Executor.Workplace
import Cadence.Proofs.Lists
import Cadence.Proofs.Pacer.Closed
import Cadence.Proofs.Pacer.Connections
import Cadence.Proofs.Pacer.Course
import Cadence.Proofs.Pacer.Marks
import Cadence.Proofs.Pacer.Operations
import Cadence.Proofs.Pacer.Pausing
import Cadence.Proofs.Pacer.RateCap
import Cadence.Proofs.Pacer.Snapshots
import Cadence.Proofs.Pacer.Spacing
import Cadence.Proofs.Pacer.Staleness
import Cadence.Proofs.Pacer.Wakeup
import Cadence.Proofs.Settings.Honoured
import Cadence.Proofs.Settings.Lawful
import Cadence.Proofs.Settings.Layering
import Cadence.Proofs.Settings.Leaves
import Cadence.Proofs.Settings.Millis
import Cadence.Proofs.Settings.Overlay
import Cadence.Proofs.Settings.Reader
import Cadence.Proofs.Settings.Reading
import Cadence.Proofs.Subscription.Establishing
import Cadence.Proofs.Subscription.Steps
import Cadence.Proofs.Time.Order
import Cadence.Proofs.Time.Saturation
import Cadence.Proofs.Time.Totals
import Cadence.Rehearsal.Basic
import Cadence.Rehearsal.Run
import Cadence.Settings.Basic
import Cadence.Settings.Document.Reader
import Cadence.Settings.Document.Scalar
import Cadence.Settings.Document.Table
import Cadence.Settings.File
import Cadence.Settings.Load
import Cadence.Settings.Loader
import Cadence.Settings.Path
import Cadence.Settings.Tree
import Cadence.Signal
import Cadence.Source.Collect
import Cadence.Source.ReadFunction
import Cadence.Subscription.Plan
import Cadence.Text.Quoted
import Cadence.Text.Record
import Cadence.Text.Unprintable
import Cadence.Time.Delay
import Cadence.Time.Duration
import Cadence.Time.Interval
import Cadence.Time.Polling
import Cadence.Time.Timestamp
import Cadence.Time.Word

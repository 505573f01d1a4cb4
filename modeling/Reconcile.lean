import Reconcile.Batch.Basic
import Reconcile.Batch.Group
import Reconcile.Batch.Report
import Reconcile.Console.Connection
import Reconcile.Console.Lookout
import Reconcile.Endpoint.Basic
import Reconcile.Endpoint.Route
import Reconcile.Http.Client
import Reconcile.Http.Exchange
import Reconcile.Http.Text
import Reconcile.Journal.Entry
import Reconcile.Journal.Event
import Reconcile.Journal.Exposition
import Reconcile.Journal.Log
import Reconcile.Journal.Metrics
import Reconcile.Json.Decimal
import Reconcile.Json.Numeral
import Reconcile.Json.Reader
import Reconcile.Json.Value
import Reconcile.Json.Writer
import Reconcile.Main
import Reconcile.Net.Ip
import Reconcile.Net.Socket
import Reconcile.Operation.Address
import Reconcile.Operation.Basic
import Reconcile.Payload.Field
import Reconcile.Payload.Models
import Reconcile.Plan.Basic
import Reconcile.Plan.Entry
import Reconcile.Program.Arguments
import Reconcile.Program.Basic
import Reconcile.Proofs.Positions.Edit
import Reconcile.Proofs.Positions.Rearrangement
import Reconcile.Proofs.Schedule.Order
import Reconcile.Proofs.Schedule.Steps
import Reconcile.Proofs.Submission.Prepare
import Reconcile.Schedule.Order
import Reconcile.Schedule.Steps
import Reconcile.Section.Basic
import Reconcile.Section.Dependencies
import Reconcile.Settings.Basic
import Reconcile.Settings.Decode
import Reconcile.Settings.Validation
import Reconcile.Signals.Watcher
import Reconcile.Submission.Call
import Reconcile.Submission.Context
import Reconcile.Submission.Execution
import Reconcile.Submission.Failure
import Reconcile.Submission.Policy
import Reconcile.Submission.Prepare
import Reconcile.Submission.Request
import Reconcile.Text.Ascii
import Reconcile.Text.Base64
import Reconcile.Text.Blank
import Reconcile.Text.Hidden
import Reconcile.Text.Quoted
import Reconcile.Text.Split
import Reconcile.Toml.Node
import Reconcile.Toml.Number
import Reconcile.Toml.Reader
import Reconcile.Toml.Text
import Reconcile.Unicode.Combining
import Reconcile.Unicode.Composition
import Reconcile.Unicode.Direction
import Reconcile.Unicode.Joining
import Reconcile.Unicode.Mark
import Reconcile.Unicode.Range
import Reconcile.Unicode.Unassigned
import Reconcile.Url.Basic
import Reconcile.Url.Domain
import Reconcile.Url.Folding
import Reconcile.Url.Host
import Reconcile.Url.Path
import Reconcile.Url.Percent
import Reconcile.Url.Punycode
import Reconcile.Url.Reader
import Reconcile.Word
import Reconcile.World.Basic
import Reconcile.Proofs.Positions.Landing
import Reconcile.Proofs.Submission.Dialogue
import Reconcile.Proofs.Batch.Group
import Reconcile.Proofs.Submission.Conversation
import Reconcile.Proofs.World.GroupRun
import Reconcile.Proofs.Batch.Report
import Reconcile.Proofs.Batch.Stages
import Reconcile.Proofs.World.BatchRun
import Reconcile.Proofs.World.Interruption
import Reconcile.Proofs.Schedule.Arrangement
import Reconcile.Proofs.Schedule.Concurrency
import Reconcile.Proofs.Batch.Accounting
import Reconcile.Proofs.World.Accounting
import Reconcile.Proofs.Url.Encoding
import Reconcile.Proofs.Url.Building
import Reconcile.Proofs.Endpoint.Distinct
import Reconcile.Proofs.Batch.Testimony
import Reconcile.Proofs.Submission.Mode
import Reconcile.Proofs.World.Testimony
import Reconcile.Proofs.World.Doubt
import Reconcile.Proofs.World.Mode
import Reconcile.Proofs.Server.Agreement
import Reconcile.Proofs.World.LostUpdates
import Reconcile.Proofs.Server.Acceptance
import Reconcile.Proofs.World.Contention
import Reconcile.Proofs.Toml.Bounds
import Reconcile.Proofs.Settings.Horizon
import Reconcile.Proofs.Url.Reading
import Reconcile.Proofs.Endpoint.Decoding
import Reconcile.Proofs.Journal.Tally
import Reconcile.Proofs.Journal.Growth
import Reconcile.Proofs.Submission.Conflicts
import Reconcile.Proofs.Batch.Conflicts
import Reconcile.Proofs.World.Metrics
import Reconcile.Proofs.Submission.Determined
import Reconcile.Proofs.World.Seclusion
import Reconcile.Proofs.World.Equivalence
import Reconcile.Proofs.Submission.Legality
import Reconcile.Proofs.Json.Object
import Reconcile.Proofs.Payload.Rule
import Reconcile.Proofs.Submission.Backoff
import Reconcile.Proofs.Submission.Overflow
import Reconcile.Proofs.Batch.Overflow
import Reconcile.Proofs.World.Overflow
import Reconcile.Proofs.Plan.Entry
import Reconcile.Proofs.Program.Arguments
import Reconcile.Proofs.World.Outcome
import Reconcile.Proofs.Program.Outcome
import Reconcile.Proofs.Submission.Doubling
import Reconcile.Proofs.Schedule.References
import Reconcile.Proofs.Text.Split
import Reconcile.Proofs.Payload.Slots
import Reconcile.Proofs.Payload.Transform
import Reconcile.Proofs.Json.Written
import Reconcile.Proofs.Endpoint.Creation
import Reconcile.Proofs.Schedule.Stability
import Reconcile.Proofs.Plan.Completeness
import Reconcile.Proofs.World.Shapes
import Reconcile.Proofs.Signals.Watcher
import Reconcile.Proofs.Submission.Guard
import Reconcile.Proofs.World.Guard
import Reconcile.Proofs.Endpoint.Usable
import Reconcile.Proofs.Batch.Submitters
import Reconcile.Proofs.Batch.Lineup
import Reconcile.Proofs.World.Submitters
import Reconcile.Proofs.Program.Preview

import EventLedger.Anomaly
import EventLedger.Catalog
import EventLedger.Clock.Registry
import EventLedger.Clock.Storage
import EventLedger.CommandLine.Grammar
import EventLedger.CommandLine.Help
import EventLedger.CommandLine.Invocation
import EventLedger.CommandLine.Reader
import EventLedger.Concurrency
import EventLedger.Digest.Sha256
import EventLedger.ErrorCode
import EventLedger.Event.Basic
import EventLedger.Event.Draft
import EventLedger.Files.Directory
import EventLedger.Files.Path
import EventLedger.GrowSet
import EventLedger.Identity.EventId
import EventLedger.Identity.Ulid
import EventLedger.Identity.Uuid
import EventLedger.Index
import EventLedger.Json.Basic
import EventLedger.Json.Decoder
import EventLedger.Json.Fault
import EventLedger.Json.IndexReader
import EventLedger.Json.Printer
import EventLedger.Json.Reader
import EventLedger.Json.RecordReader
import EventLedger.Json.Refusal
import EventLedger.Json.Skip
import EventLedger.Lane
import EventLedger.LedgerError
import EventLedger.Main
import EventLedger.Merge.Causality
import EventLedger.Merge.Conflict
import EventLedger.Merge.Replicated
import EventLedger.Merge.StateMachine
import EventLedger.Merge.StatePriority
import EventLedger.Metrics
import EventLedger.Number.Binary64
import EventLedger.Number.Bounds
import EventLedger.Number.Integer
import EventLedger.Number.Shortest
import EventLedger.Order.Basic
import EventLedger.Order.Fingerprint
import EventLedger.Output.Table
import EventLedger.Payload
import EventLedger.Payload.Collaboration
import EventLedger.Payload.Connector
import EventLedger.Payload.DecisionPoint
import EventLedger.Payload.Glossary
import EventLedger.Payload.Lifecycle
import EventLedger.Payload.MissionAudit
import EventLedger.Payload.MissionNext
import EventLedger.Payload.Status
import EventLedger.Payload.Sync
import EventLedger.Payload.Values
import EventLedger.Program
import EventLedger.Proofs.Catalog
import EventLedger.Proofs.Clock.Causality
import EventLedger.Proofs.Clock.Document
import EventLedger.Proofs.Clock.Failure
import EventLedger.Proofs.Clock.Refinement
import EventLedger.Proofs.Clock.Storage
import EventLedger.Proofs.Event.Fields
import EventLedger.Proofs.Event.RoundTrip
import EventLedger.Proofs.Event.Text
import EventLedger.Proofs.Files.Contents
import EventLedger.Proofs.Files.Untouched
import EventLedger.Proofs.GrowSet
import EventLedger.Proofs.Identity.Ulid
import EventLedger.Proofs.Json.Legible
import EventLedger.Proofs.Json.Numbers
import EventLedger.Proofs.Json.Printable
import EventLedger.Proofs.Json.RoundTrip
import EventLedger.Proofs.Json.Settling
import EventLedger.Proofs.Json.Strings
import EventLedger.Proofs.Json.Text
import EventLedger.Proofs.Merge.Causes
import EventLedger.Proofs.Merge.Conflict
import EventLedger.Proofs.Merge.Counter
import EventLedger.Proofs.Merge.Cycles
import EventLedger.Proofs.Merge.Placement
import EventLedger.Proofs.Merge.Union
import EventLedger.Proofs.Merge.Winner
import EventLedger.Proofs.Metrics
import EventLedger.Proofs.NamedSets
import EventLedger.Proofs.Number.Shortest
import EventLedger.Proofs.Number.Text
import EventLedger.Proofs.Order.Best
import EventLedger.Proofs.Order.Canonical
import EventLedger.Proofs.Order.Fingerprint
import EventLedger.Proofs.Order.Kept
import EventLedger.Proofs.Order.Key
import EventLedger.Proofs.Order.Replicas
import EventLedger.Proofs.Order.Ties
import EventLedger.Proofs.Payload.Settled
import EventLedger.Proofs.Reduction.Accounting
import EventLedger.Proofs.Reduction.Arrival
import EventLedger.Proofs.Reduction.Audit
import EventLedger.Proofs.Reduction.AuditCourse
import EventLedger.Proofs.Reduction.Boundary
import EventLedger.Proofs.Reduction.Choice
import EventLedger.Proofs.Reduction.Counting
import EventLedger.Proofs.Reduction.Course
import EventLedger.Proofs.Reduction.Decommissioned
import EventLedger.Proofs.Reduction.Delivery
import EventLedger.Proofs.Reduction.Entities
import EventLedger.Proofs.Reduction.Family
import EventLedger.Proofs.Reduction.FirstStart
import EventLedger.Proofs.Reduction.Folding
import EventLedger.Proofs.Reduction.Glossary
import EventLedger.Proofs.Reduction.Health
import EventLedger.Proofs.Reduction.Isolation
import EventLedger.Proofs.Reduction.LanePath
import EventLedger.Proofs.Reduction.Mission
import EventLedger.Proofs.Reduction.Moves
import EventLedger.Proofs.Reduction.Pause
import EventLedger.Proofs.Reduction.Pending
import EventLedger.Proofs.Reduction.Rollback
import EventLedger.Proofs.Reduction.Run
import EventLedger.Proofs.Reduction.Screening
import EventLedger.Proofs.Reduction.Session
import EventLedger.Proofs.Reduction.Sifting
import EventLedger.Proofs.Reduction.Terminal
import EventLedger.Proofs.Store.Appending
import EventLedger.Proofs.Store.EventFile
import EventLedger.Proofs.Store.Operations
import EventLedger.Proofs.Store.Reading
import EventLedger.Proofs.Store.Refinement
import EventLedger.Proofs.Text.Digits
import EventLedger.Proofs.Text.Lines
import EventLedger.Proofs.Text.Quoted
import EventLedger.Proofs.Text.Utf8
import EventLedger.Proofs.Validation.EventId
import EventLedger.Proofs.Validation.Forms
import EventLedger.Proofs.Validation.Reasons
import EventLedger.Proofs.Validation.Wording
import EventLedger.Reduction
import EventLedger.Reduction.Basic
import EventLedger.Reduction.Collaboration
import EventLedger.Reduction.Connector
import EventLedger.Reduction.DecisionPoint
import EventLedger.Reduction.Glossary
import EventLedger.Reduction.Lifecycle
import EventLedger.Reduction.MissionAudit
import EventLedger.Reduction.MissionNext
import EventLedger.Reduction.Status
import EventLedger.Reduction.Sync
import EventLedger.Report.Basic
import EventLedger.Report.Clock
import EventLedger.Report.Conflicts
import EventLedger.Report.Fold
import EventLedger.Report.Merge
import EventLedger.Report.Order
import EventLedger.Report.Validation
import EventLedger.Settings.Config
import EventLedger.Settings.Key
import EventLedger.Settings.LogFilter
import EventLedger.Settings.Pattern
import EventLedger.Settings.Setting
import EventLedger.Settings.Source
import EventLedger.Settings.VariableFile
import EventLedger.Store.EventFile
import EventLedger.Store.EventStore
import EventLedger.Text.Alphanumeric
import EventLedger.Text.Blank
import EventLedger.Text.CharWidth
import EventLedger.Text.Decimal
import EventLedger.Text.Emoji
import EventLedger.Text.Lines
import EventLedger.Text.Lowercase
import EventLedger.Text.Printable
import EventLedger.Text.Quoted
import EventLedger.Text.Ranges
import EventLedger.Text.Terminal
import EventLedger.Text.Utf8
import EventLedger.Text.Width
import EventLedger.Timestamp
import EventLedger.Validation
import EventLedger.Yaml.Printer
import EventLedger.Yaml.Scalar

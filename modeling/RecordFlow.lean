import RecordFlow.Calendar.Date
import RecordFlow.Calendar.Parts
import RecordFlow.Calendar.Reading
import RecordFlow.Calendar.Template
import RecordFlow.Calendar.Timestamp
import RecordFlow.Calendar.Unit
import RecordFlow.Command.Arguments
import RecordFlow.Command.Failure
import RecordFlow.Command.Program
import RecordFlow.Condition.Basic
import RecordFlow.Condition.Document
import RecordFlow.Document.Basic
import RecordFlow.Document.Error
import RecordFlow.Document.JsonText
import RecordFlow.Document.Reader
import RecordFlow.Document.Tagged
import RecordFlow.Expression.Arithmetic
import RecordFlow.Expression.Basic
import RecordFlow.Expression.Document
import RecordFlow.Expression.Operation
import RecordFlow.Expression.Placeholder
import RecordFlow.Files.Basic
import RecordFlow.Files.Disk
import RecordFlow.Json.Basic
import RecordFlow.Json.Fault
import RecordFlow.Json.Number
import RecordFlow.Json.Printer
import RecordFlow.Json.Reader
import RecordFlow.Json.Skipping
import RecordFlow.Main
import RecordFlow.Number.Dyadic
import RecordFlow.Number.Reading
import RecordFlow.Number.Shortest
import RecordFlow.Number.Text
import RecordFlow.Pattern.Basic
import RecordFlow.Pattern.Form
import RecordFlow.Pattern.Meaning
import RecordFlow.Pattern.Named
import RecordFlow.Pattern.Occurrence
import RecordFlow.Pattern.Parser
import RecordFlow.Pattern.Size
import RecordFlow.Pattern.Utf8
import RecordFlow.Pipeline.Definition
import RecordFlow.Pipeline.Document
import RecordFlow.Pipeline.Graph
import RecordFlow.Pipeline.Validation
import RecordFlow.Proofs.Action
import RecordFlow.Proofs.Calendar.Date
import RecordFlow.Proofs.Calendar.Difference
import RecordFlow.Proofs.Calendar.IsoText
import RecordFlow.Proofs.Calendar.Order
import RecordFlow.Proofs.Calendar.Regularity
import RecordFlow.Proofs.Calendar.Rereading
import RecordFlow.Proofs.Calendar.Tiling
import RecordFlow.Proofs.Condition.Membership
import RecordFlow.Proofs.Condition.Ordering
import RecordFlow.Proofs.Document.Fields
import RecordFlow.Proofs.Document.InMemory
import RecordFlow.Proofs.Document.Structures
import RecordFlow.Proofs.Expression.Arithmetic
import RecordFlow.Proofs.Expression.Dates
import RecordFlow.Proofs.Expression.Rereading
import RecordFlow.Proofs.Expression.Slices
import RecordFlow.Proofs.Expression.Soundness
import RecordFlow.Proofs.Expression.Templates
import RecordFlow.Proofs.Expression.Texts
import RecordFlow.Proofs.Files.Disk
import RecordFlow.Proofs.Json.Layout
import RecordFlow.Proofs.Json.Numbers
import RecordFlow.Proofs.Json.Rereading
import RecordFlow.Proofs.Json.Tokens
import RecordFlow.Proofs.Number.Arithmetic
import RecordFlow.Proofs.Number.Comparison
import RecordFlow.Proofs.Number.FloatOfInt
import RecordFlow.Proofs.Number.Rounding
import RecordFlow.Proofs.Pipeline.Acceptance
import RecordFlow.Proofs.Pipeline.Building
import RecordFlow.Proofs.Pipeline.BuiltGraph
import RecordFlow.Proofs.Pipeline.Dependency
import RecordFlow.Proofs.Pipeline.Reordering
import RecordFlow.Proofs.Pipeline.Requirement
import RecordFlow.Proofs.Pipeline.Rereading
import RecordFlow.Proofs.Pipeline.Resubmission
import RecordFlow.Proofs.Pipeline.Schedule
import RecordFlow.Proofs.Pipeline.Soundness
import RecordFlow.Proofs.Pipeline.Warning
import RecordFlow.Proofs.Run.Attempt
import RecordFlow.Proofs.Run.Cleanup
import RecordFlow.Proofs.Run.DryRun
import RecordFlow.Proofs.Run.Errors
import RecordFlow.Proofs.Run.FailedStep
import RecordFlow.Proofs.Run.Handover
import RecordFlow.Proofs.Run.Interpretation
import RecordFlow.Proofs.Run.Lockstep
import RecordFlow.Proofs.Run.MemoryHost
import RecordFlow.Proofs.Run.NewRun
import RecordFlow.Proofs.Run.Outcome
import RecordFlow.Proofs.Run.Persistence
import RecordFlow.Proofs.Run.Recording
import RecordFlow.Proofs.Run.Rehearsal
import RecordFlow.Proofs.Run.Rereading
import RecordFlow.Proofs.Run.Rerun
import RecordFlow.Proofs.Run.Rescheduling
import RecordFlow.Proofs.Run.Reserved
import RecordFlow.Proofs.Run.Sources
import RecordFlow.Proofs.Run.Status
import RecordFlow.Proofs.Run.Trace
import RecordFlow.Proofs.Run.Undisturbed
import RecordFlow.Proofs.Service.History
import RecordFlow.Proofs.Service.Operations
import RecordFlow.Proofs.Service.Pipelines
import RecordFlow.Proofs.Service.Refusals
import RecordFlow.Proofs.Service.Registry
import RecordFlow.Proofs.Service.Repository
import RecordFlow.Proofs.Service.Runs
import RecordFlow.Proofs.Service.Storing
import RecordFlow.Proofs.Source.JsonFile
import RecordFlow.Proofs.Step.Aggregating
import RecordFlow.Proofs.Step.Attaching
import RecordFlow.Proofs.Step.Collecting
import RecordFlow.Proofs.Step.Deduplicating
import RecordFlow.Proofs.Step.Distinctness
import RecordFlow.Proofs.Step.Extremes
import RecordFlow.Proofs.Step.Flattening
import RecordFlow.Proofs.Step.Grouping
import RecordFlow.Proofs.Step.Joining
import RecordFlow.Proofs.Step.Mapping
import RecordFlow.Proofs.Step.Naming
import RecordFlow.Proofs.Step.Pivoting
import RecordFlow.Proofs.Step.Prefixing
import RecordFlow.Proofs.Step.Rereading
import RecordFlow.Proofs.Step.Sorting
import RecordFlow.Proofs.Step.Spreading
import RecordFlow.Proofs.Step.Summing
import RecordFlow.Proofs.Step.Timeless
import RecordFlow.Proofs.Store.Collections
import RecordFlow.Proofs.Store.Directory
import RecordFlow.Proofs.Store.Interchange
import RecordFlow.Proofs.Text.Split
import RecordFlow.Proofs.Value.Equality
import RecordFlow.Proofs.Value.Order
import RecordFlow.Proofs.Value.Path
import RecordFlow.Proofs.Value.Rearrangement
import RecordFlow.Proofs.Value.Writing
import RecordFlow.Run.Basic
import RecordFlow.Run.Document
import RecordFlow.Run.Execution
import RecordFlow.Run.Log
import RecordFlow.Run.Workspace
import RecordFlow.Service.Basic
import RecordFlow.Service.Repository
import RecordFlow.Settings.Basic
import RecordFlow.Settings.File
import RecordFlow.Source.Csv
import RecordFlow.Source.JsonFile
import RecordFlow.Source.Reading
import RecordFlow.Step.Aggregation
import RecordFlow.Step.Config
import RecordFlow.Step.Document
import RecordFlow.Step.Grouping
import RecordFlow.Step.Joining
import RecordFlow.Step.Process
import RecordFlow.Step.Reshaping
import RecordFlow.Step.Sorting
import RecordFlow.Store.Basic
import RecordFlow.Store.Error
import RecordFlow.Store.Faults
import RecordFlow.Store.Filter
import RecordFlow.Store.Memory
import RecordFlow.Store.OnFiles
import RecordFlow.Text.Age
import RecordFlow.Text.Blank
import RecordFlow.Text.Case
import RecordFlow.Text.Category
import RecordFlow.Text.CodeSet
import RecordFlow.Text.Digits
import RecordFlow.Text.Edition
import RecordFlow.Text.Property
import RecordFlow.Text.PropertyList
import RecordFlow.Text.Script
import RecordFlow.Text.Segment
import RecordFlow.Text.Split
import RecordFlow.Text.Utf8
import RecordFlow.Text.Uuid
import RecordFlow.Value.Basic
import RecordFlow.Value.Order
import RecordFlow.Value.Path
import RecordFlow.Yaml.Basic
import RecordFlow.Yaml.BlockScalar
import RecordFlow.Yaml.Cursor
import RecordFlow.Yaml.Document
import RecordFlow.Yaml.Fault
import RecordFlow.Yaml.Node
import RecordFlow.Yaml.Scalar
import RecordFlow.Yaml.Tag
import RecordFlow.Yaml.Token

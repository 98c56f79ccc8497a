import EntitySearch.Batcher
import EntitySearch.Bridge.Config
import EntitySearch.Bridge.Lifecycle
import EntitySearch.Bridge.Operations
import EntitySearch.Duration
import EntitySearch.Engine.Call
import EntitySearch.Engine.Error
import EntitySearch.Engine.Glob
import EntitySearch.Engine.Health
import EntitySearch.Engine.Link
import EntitySearch.Engine.Match
import EntitySearch.Engine.Memory
import EntitySearch.Engine.Operation
import EntitySearch.Engine.Order
import EntitySearch.Engine.Response
import EntitySearch.Engine.Rest
import EntitySearch.Engine.Search
import EntitySearch.Error
import EntitySearch.Index.Administration
import EntitySearch.Index.Mapping
import EntitySearch.Index.Ready
import EntitySearch.Json.Basic
import EntitySearch.Json.Parser
import EntitySearch.Json.Printer
import EntitySearch.Json.Record
import EntitySearch.Metrics
import EntitySearch.Number.Binary64
import EntitySearch.Number.Decimal
import EntitySearch.Procedure
import EntitySearch.Proofs.Engine.Acknowledged
import EntitySearch.Proofs.Engine.Answers
import EntitySearch.Proofs.Engine.Backtracking
import EntitySearch.Proofs.Engine.Comparison
import EntitySearch.Proofs.Engine.Delayed
import EntitySearch.Proofs.Engine.Distinct
import EntitySearch.Proofs.Engine.Documents
import EntitySearch.Proofs.Engine.Framing
import EntitySearch.Proofs.Engine.Listing
import EntitySearch.Proofs.Engine.Replayed
import EntitySearch.Proofs.Engine.Replies
import EntitySearch.Proofs.Engine.Settled
import EntitySearch.Proofs.Engine.SortedHits
import EntitySearch.Proofs.Engine.Wildcards
import EntitySearch.Proofs.Engine.Yields
import EntitySearch.Proofs.Index.Achieving
import EntitySearch.Proofs.Index.Guards
import EntitySearch.Proofs.Index.Known
import EntitySearch.Proofs.Index.Layout
import EntitySearch.Proofs.Index.ManagedEngine
import EntitySearch.Proofs.Index.Manager
import EntitySearch.Proofs.Index.Recreating
import EntitySearch.Proofs.Index.Requests
import EntitySearch.Proofs.Index.SettingUp
import EntitySearch.Proofs.Index.Shared
import EntitySearch.Proofs.Index.Steps
import EntitySearch.Proofs.Index.Union
import EntitySearch.Proofs.Index.Usable
import EntitySearch.Proofs.Json.Equality
import EntitySearch.Proofs.Json.Members
import EntitySearch.Proofs.Json.Printed
import EntitySearch.Proofs.Json.Reading
import EntitySearch.Proofs.Json.Stored
import EntitySearch.Proofs.Json.Strings
import EntitySearch.Proofs.Metrics.Series
import EntitySearch.Proofs.Number.Integers
import EntitySearch.Proofs.Number.Numerals
import EntitySearch.Proofs.Number.Rounding
import EntitySearch.Proofs.Number.Scaling
import EntitySearch.Proofs.Number.Shortest
import EntitySearch.Proofs.Number.Spacing
import EntitySearch.Proofs.Number.Text
import EntitySearch.Proofs.Procedure.Ensures
import EntitySearch.Proofs.Procedure.Leads
import EntitySearch.Proofs.Procedure.Retrying
import EntitySearch.Proofs.Query.Decoded
import EntitySearch.Proofs.Query.Flattening
import EntitySearch.Proofs.Query.Leaves
import EntitySearch.Proofs.Query.Malformed
import EntitySearch.Proofs.Query.Meaning
import EntitySearch.Proofs.Query.Pruning
import EntitySearch.Proofs.Queue.Account
import EntitySearch.Proofs.Queue.Ages
import EntitySearch.Proofs.Queue.Backoff
import EntitySearch.Proofs.Queue.Capacity
import EntitySearch.Proofs.Queue.Conservation
import EntitySearch.Proofs.Queue.Counting
import EntitySearch.Proofs.Queue.Course
import EntitySearch.Proofs.Queue.Delays
import EntitySearch.Proofs.Queue.Draining
import EntitySearch.Proofs.Queue.Metered
import EntitySearch.Proofs.Queue.Numbers
import EntitySearch.Proofs.Queue.Plan
import EntitySearch.Proofs.Queue.Refusal
import EntitySearch.Proofs.Queue.Reports
import EntitySearch.Proofs.Queue.Requests
import EntitySearch.Proofs.Queue.Steps
import EntitySearch.Proofs.Queue.Stopping
import EntitySearch.Proofs.Queue.Transcript
import EntitySearch.Proofs.Queue.Writing
import EntitySearch.Proofs.Schema.History
import EntitySearch.Proofs.Schema.Resolved
import EntitySearch.Proofs.Schema.Validation
import EntitySearch.Proofs.Search.Answered
import EntitySearch.Proofs.Search.Identifiers
import EntitySearch.Proofs.Search.Opened
import EntitySearch.Proofs.Search.Paging
import EntitySearch.Proofs.Search.RawPaths
import EntitySearch.Proofs.Search.TypeFilter
import EntitySearch.Proofs.Session.Accounting
import EntitySearch.Proofs.Session.Administered
import EntitySearch.Proofs.Session.Aging
import EntitySearch.Proofs.Session.Attributed
import EntitySearch.Proofs.Session.Batching
import EntitySearch.Proofs.Session.Bridges
import EntitySearch.Proofs.Session.Calls
import EntitySearch.Proofs.Session.Capacity
import EntitySearch.Proofs.Session.Closing
import EntitySearch.Proofs.Session.Entered
import EntitySearch.Proofs.Session.Events
import EntitySearch.Proofs.Session.Failures
import EntitySearch.Proofs.Session.Filled
import EntitySearch.Proofs.Session.Gauged
import EntitySearch.Proofs.Session.Handing
import EntitySearch.Proofs.Session.Held
import EntitySearch.Proofs.Session.LastWrite
import EntitySearch.Proofs.Session.Measured
import EntitySearch.Proofs.Session.Metered
import EntitySearch.Proofs.Session.Moving
import EntitySearch.Proofs.Session.Orderly
import EntitySearch.Proofs.Session.Outlasting
import EntitySearch.Proofs.Session.Place
import EntitySearch.Proofs.Session.Quiescent
import EntitySearch.Proofs.Session.Reached
import EntitySearch.Proofs.Session.ReadAfterWrite
import EntitySearch.Proofs.Session.Readiness
import EntitySearch.Proofs.Session.Recording
import EntitySearch.Proofs.Session.Reporting
import EntitySearch.Proofs.Session.Scene
import EntitySearch.Proofs.Session.Silent
import EntitySearch.Proofs.Session.Speaking
import EntitySearch.Proofs.Session.Staff
import EntitySearch.Proofs.Session.Tended
import EntitySearch.Proofs.Session.Transcribed
import EntitySearch.Proofs.Session.Turn
import EntitySearch.Proofs.Session.Using
import EntitySearch.Proofs.Session.Watched
import EntitySearch.Proofs.Session.Yielding
import EntitySearch.Proofs.Sorting.Merged
import EntitySearch.Proofs.Sorting.Ordered
import EntitySearch.Proofs.Sorting.Permutation
import EntitySearch.Proofs.Sorting.Renaming
import EntitySearch.Query.Sort
import EntitySearch.Query.Target
import EntitySearch.Query.Targeting
import EntitySearch.Query.Tree
import EntitySearch.Queue.Basic
import EntitySearch.Queue.Client
import EntitySearch.Queue.Failure
import EntitySearch.Queue.Writer
import EntitySearch.Rehearsal
import EntitySearch.Report
import EntitySearch.Retry
import EntitySearch.Schema.Declaration
import EntitySearch.Schema.Descriptor
import EntitySearch.Schema.Error
import EntitySearch.Schema.Field
import EntitySearch.Schema.Registry
import EntitySearch.Search.Execution
import EntitySearch.Search.Identifier
import EntitySearch.Search.Request
import EntitySearch.Session.Basic
import EntitySearch.Session.Schedule
import EntitySearch.Session.System
import EntitySearch.Session.Use
import EntitySearch.Sorting.Runs
import EntitySearch.Sorting.Small
import EntitySearch.Sorting.Stable
import EntitySearch.Text.Blank
import EntitySearch.Text.Case
import EntitySearch.Text.Combining
import EntitySearch.Text.Composition
import EntitySearch.Text.Direction
import EntitySearch.Text.Joining
import EntitySearch.Text.Ranges
import EntitySearch.Text.Table
import EntitySearch.Text.Word
import EntitySearch.Web.Host
import EntitySearch.Web.Name
import EntitySearch.Web.NameTable
import EntitySearch.Web.Percent
import EntitySearch.Web.Punycode
import EntitySearch.Web.Url
import EntitySearch.WorkItem

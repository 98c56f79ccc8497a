/-!
# Metrics

What is measured, and how it is reported: counters and gauges as totals, distributions as the
values since the last report, and timings by how many there were since the last report.

* `Measurement`: an observation.
* `Metrics`: the totals of all series ever touched.
* `Metrics.observe`: adds an observation.
* `Metrics.report`: the lines of a report.
-/

namespace EntitySearch

/-- An observation. -/
inductive Measurement where
  /-- A batch of items was cut, for a reason. -/
  | flush (reason : String) (items : Nat)
  /-- A bulk request, with all its attempts, came to an end. -/
  | bulk (success : Bool)
  /-- An operation is about to be tried again. -/
  | retry (operation : String)
  /-- Items were reported as not delivered. -/
  | undelivered (kind : String) (items : Nat)
  /-- A refresh of indices, with all its attempts, came to an end. -/
  | refresh (indices : Nat) (success : Bool)
  /-- The number of items that wait for a batch. -/
  | pending (items : Nat)
  /-- A search came to an end. -/
  | search (status : String) (hits : Nat)
  /-- A search was refused for failures of parts of the index. -/
  | shardFailures (failures : Nat)
  /-- A change to an index came to an end. -/
  | indexOperation (operation : String) (success : Bool)
  /-- A bridge entered a state. -/
  | bridgeState (state : String)
  /-- An operation was timed. -/
  | timed (operation : String)

/-- A series of observations: a name and labels. -/
structure Series where
  name : String
  labels : List (String × String) := []
deriving DecidableEq

/-- The text of a series. -/
def Series.text (series : Series) : String :=
  let labels := series.labels.map fun (key, value) => key ++ "=" ++ value
  "search_bridge_" ++ series.name ++ "\x7b" ++ ",".intercalate labels ++ "\x7d"

/-- The values of series, in the order in which the series were first touched. -/
abbrev Table (α : Type) := List (Series × α)

namespace Table

variable {α : Type}

/-- Changes the value of a series, which starts as `initial`. -/
def update (initial : α) (series : Series) (change : α → α) : Table α → Table α
  | [] => [(series, change initial)]
  | (key, value) :: rest =>
    if key = series then (key, change value) :: rest
    else (key, value) :: update initial series change rest

/-- The value of a series, if it was ever touched. -/
def find? (series : Series) : Table α → Option α
  | [] => none
  | (key, value) :: rest => if key = series then some value else find? series rest

end Table

/-- The totals of all series. -/
structure Metrics where
  counters : Table Nat := []
  gauges : Table Nat := []
  /-- Values since the last report. -/
  distributions : Table (List Nat) := []
  /-- How many timings there were since the last report. -/
  timings : Table Nat := []

namespace Metrics

/-- Adds to a counter. -/
def count (metrics : Metrics) (series : Series) (n : Nat) : Metrics :=
  { metrics with counters := metrics.counters.update 0 series (· + n) }

/-- Sets a gauge. -/
def set (metrics : Metrics) (series : Series) (n : Nat) : Metrics :=
  { metrics with gauges := metrics.gauges.update 0 series fun _ => n }

/-- Adds a value to a distribution. -/
def sample (metrics : Metrics) (series : Series) (n : Nat) : Metrics :=
  { metrics with distributions := metrics.distributions.update [] series (n :: ·) }

/-- Counts a timing. -/
def time (metrics : Metrics) (series : Series) : Metrics :=
  { metrics with timings := metrics.timings.update 0 series (· + 1) }

/-- The label of an outcome. -/
def status (success : Bool) : String × String := ("status", if success then "success" else "error")

/-- Adds an observation. -/
def observe (metrics : Metrics) : Measurement → Metrics
  | .flush reason items =>
    (metrics.count ⟨"flushes_total", [("reason", reason)]⟩ 1).sample ⟨"batch_size", []⟩ items
  | .bulk success =>
    (metrics.count ⟨"bulk_requests_total", [status success]⟩ 1).time ⟨"bulk_seconds", []⟩
  | .retry operation => metrics.count ⟨"retries_total", [("operation", operation)]⟩ 1
  | .undelivered kind items =>
    (metrics.count ⟨"bulk_failures_total", [("kind", kind)]⟩ 1).count
      ⟨"undelivered_items_total", []⟩ items
  | .refresh indices success =>
    (metrics.count ⟨"refreshes_total", [status success]⟩ 1).sample ⟨"refresh_indices", []⟩ indices
  | .pending items => metrics.set ⟨"pending_items", []⟩ items
  | .search status hits =>
    ((metrics.count ⟨"searches_total", [("status", status)]⟩ 1).time ⟨"search_seconds", []⟩).sample
      ⟨"search_hits", []⟩ hits
  | .shardFailures failures => metrics.count ⟨"shard_failures_total", []⟩ failures
  | .indexOperation operation success =>
    metrics.count ⟨"index_operations_total", [("operation", operation), status success]⟩ 1
  | .bridgeState state => metrics.set ⟨"state", [("state", state)]⟩ 1
  | .timed operation => metrics.time ⟨"operation_seconds", [("operation", operation)]⟩

/-- Adds observations. -/
def observeAll (metrics : Metrics) (measurements : List Measurement) : Metrics :=
  measurements.foldl observe metrics

/-! ## Reports -/

/-- A line for every series of a table. -/
def tableLines {α : Type} (kind : String) (value : α → String) (table : Table α) : List String :=
  table.map fun (series, total) => kind ++ " " ++ series.text ++ " " ++ value total

/-- The values of a distribution, the smallest first. -/
def distributionText (values : List Nat) : String :=
  "[" ++ ", ".intercalate ((values.mergeSort fun a b => a ≤ b).map toString) ++ "]"

/-- The lines of a report, sorted. -/
def report (metrics : Metrics) : List String :=
  let lines := tableLines "counter" toString metrics.counters ++
    tableLines "gauge" toString metrics.gauges ++
    tableLines "histogram" distributionText metrics.distributions ++
    tableLines "histogram" (fun n => "count=" ++ toString n) metrics.timings
  lines.mergeSort fun a b => decide (a ≤ b)

/-- The totals after a report. -/
def afterReport (metrics : Metrics) : Metrics :=
  { metrics with
    distributions := metrics.distributions.map fun (series, _) => (series, [])
    timings := metrics.timings.map fun (series, _) => (series, 0) }

end Metrics

end EntitySearch

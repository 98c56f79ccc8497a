import EntitySearch.Queue.Basic
import EntitySearch.Schema.Declaration

/-!
# The configuration of a bridge

* `BridgeConfig`: the settings, each with a default.
* `BridgeConfig.ofJson?`: reading them.
* `BridgeConfig.queueSettings` and others: what follows from them for the parts of a bridge.
-/

namespace EntitySearch

/-- The settings of a bridge. -/
structure BridgeConfig where
  /-- Where the engine is reached. -/
  engineUrl : String := "http://localhost:9200"
  /-- How long a request may take. -/
  requestTimeoutMillis : Nat := 30000
  /-- How many items make a batch. -/
  flushCount : Nat := 100
  /-- How long an item waits for a batch. -/
  flushMillis : Nat := 3000
  /-- Whether every flush waits until its items are visible to searches. -/
  strict : Bool := false
  /-- The most entities that one search gives. -/
  maxPageSize : Nat := 200
  /-- How long a new index may take to become usable. -/
  healthTimeoutMillis : Nat := 30000
  /-- How often a bulk request is tried. -/
  bulkAttempts : Nat := 5
  /-- The delay before a bulk request is tried for the second time. -/
  bulkInitialMillis : Nat := 200
  /-- The longest delay before a bulk request is tried again. -/
  bulkMaximumMillis : Nat := 5000
  /-- How many reports of failures are kept. -/
  failureCapacity : Nat := 64
  /-- The index of entity types that name none. -/
  defaultIndex : String := "search_bridge"
  /-- Whether opening the bridge drops all documents. -/
  recreateOnOpen : Bool := false
  schema : SchemaDeclaration := {}

namespace BridgeConfig

/-- Reads the settings. -/
def ofJson? (value : Json) : Option BridgeConfig := do
  let slots ← value.slots? ["engine_url", "request_timeout_ms", "batch_flush_count",
    "batch_flush_ms", "strict_consistency", "max_page_size", "health_timeout_ms",
    "bulk_max_retries", "bulk_initial_backoff_ms", "bulk_max_backoff_ms",
    "failure_channel_capacity", "default_index_name", "recreate_indexes_on_open", "schema"]
  match slots with
  | [engineUrl, requestTimeout, flushCount, flushMillis, strict, maxPageSize, healthTimeout,
      bulkAttempts, bulkInitial, bulkMaximum, failureCapacity, defaultIndex, recreate, schema] =>
    let config : BridgeConfig := {}
    return {
      engineUrl := ← Json.optional? Json.asString? config.engineUrl engineUrl
      requestTimeoutMillis :=
        ← Json.optional? Json.asNat? config.requestTimeoutMillis requestTimeout
      flushCount := ← Json.optional? Json.asNat? config.flushCount flushCount
      flushMillis := ← Json.optional? Json.asNat? config.flushMillis flushMillis
      strict := ← Json.optional? Json.asBool? config.strict strict
      maxPageSize := ← Json.optional? Json.asNat? config.maxPageSize maxPageSize
      healthTimeoutMillis :=
        ← Json.optional? Json.asNat? config.healthTimeoutMillis healthTimeout
      bulkAttempts := ← Json.optional? Json.asNat? config.bulkAttempts bulkAttempts
      bulkInitialMillis := ← Json.optional? Json.asNat? config.bulkInitialMillis bulkInitial
      bulkMaximumMillis := ← Json.optional? Json.asNat? config.bulkMaximumMillis bulkMaximum
      failureCapacity := ← Json.optional? Json.asNat? config.failureCapacity failureCapacity
      defaultIndex := ← Json.optional? Json.asString? config.defaultIndex defaultIndex
      recreateOnOpen := ← Json.optional? Json.asBool? config.recreateOnOpen recreate
      schema := ← Json.optional? SchemaDeclaration.ofJson? config.schema schema }
  | _ => none

/-- How long a request may take. -/
def requestTimeout (config : BridgeConfig) : Duration := .ofMillis config.requestTimeoutMillis

/-- How long a new index may take to become usable. -/
def healthTimeout (config : BridgeConfig) : Duration := .ofMillis config.healthTimeoutMillis

/-- When a batch is ready. -/
def limits (config : BridgeConfig) : BatchLimits := ⟨config.flushMillis, max config.flushCount 1⟩

/-- The policy for bulk requests. -/
def bulkPolicy (config : BridgeConfig) : RetryPolicy :=
  .doubling config.bulkAttempts (.ofMillis config.bulkInitialMillis)
    (.ofMillis config.bulkMaximumMillis)

/-- How the queue is set up. -/
def queueSettings (config : BridgeConfig) : QueueSettings where
  limits := config.limits
  strict := config.strict
  bulkPolicy := config.bulkPolicy
  failureCapacity := config.failureCapacity

/-- The registered entity types. -/
def registry (config : BridgeConfig) : Except SchemaError Registry :=
  config.schema.resolve config.defaultIndex

end BridgeConfig

end EntitySearch

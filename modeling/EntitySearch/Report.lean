import EntitySearch.Bridge.Config
import EntitySearch.Bridge.Operations
import EntitySearch.Engine.Memory
import EntitySearch.Queue.Failure

/-!
# Values as JSON objects

Descriptions of the library's values for people and other programs to read. Values of documents
stand in them as texts, and numbers of nanoseconds as decimal texts.

* `report` of a type: the description of its values.
-/

namespace EntitySearch

namespace Json

/-- A description of a value that may be missing. -/
def orNull {α : Type} (report : α → Json) : Option α → Json
  | some a => report a
  | none => .null

/-- A list of descriptions. -/
def list {α : Type} (report : α → Json) (items : List α) : Json := .array (items.map report)

/-- The text of a value, as a string. -/
def asText (value : Json) : Json := .string value.text

end Json

/-- A span in nanoseconds. -/
def Duration.report (d : Duration) : Json := .string (toString d.nanos)

/-- The sixteen hexadecimal digits of a number. -/
def Binary64.report (x : Binary64) : Json :=
  let digits := Nat.toDigits 16 x.toBits
  .string (String.ofList (List.replicate (16 - digits.length) '0' ++ digits))

/-! ## Schemas and settings -/

/-- The name of a data type. -/
def FieldType.name : FieldType → String
  | .text => "Text"
  | .integer => "Integer"
  | .long => "Long"
  | .double => "Double"
  | .boolean => "Boolean"
  | .date => "Date"

/-- The name of a way to read identifiers back. -/
def IdType.name : IdType → String
  | .string => "String"
  | .numeric => "Numeric"

/-- The description of a data type. -/
def FieldType.report (dataType : FieldType) : Json :=
  .object [("type", .string dataType.name), ("analyzed", .string (dataType.engineType true)),
    ("exact", .string (dataType.engineType false)), ("numeric", .bool dataType.isNumeric)]

/-- The description of a field. -/
def Field.report (field : Field) : Json :=
  .object [("name", .string field.name), ("type", .string field.dataType.name),
    ("analyzed", .bool field.analyzed), ("raw_name", .string field.rawName),
    ("raw_path", .string field.rawPath)]

/-- The description of an entity type. -/
def Descriptor.report (descriptor : Descriptor) : Json :=
  .object [("entity", .string descriptor.entityType), ("index", .string descriptor.indexName),
    ("id_field", .string descriptor.idField), ("id_type", .string descriptor.idType.name),
    ("fields", .list Field.report descriptor.fields)]

/-- The description of a declared entity type. -/
def EntityDeclaration.report (entity : EntityDeclaration) : Json :=
  .object [("name", .string entity.name), ("index", .orNull .string entity.index),
    ("id_field", .orNull .string entity.idField), ("id_type", .string entity.idType.name),
    ("fields", entity.fields |> .list fun field =>
      .array [.string field.name, .string field.typeName, .bool field.analyzed])]

/-- The description of a retry policy. -/
def RetryPolicy.report (policy : RetryPolicy) : Json :=
  .object [("max_attempts", .nat policy.maxAttempts), ("initial_ns", policy.initial.report),
    ("max_ns", policy.maximum.report)]

/-- What follows from the settings of a bridge for its parts. -/
def BridgeConfig.derived (config : BridgeConfig) : Json :=
  let settings := config.queueSettings
  .object [("request_timeout_ns", config.requestTimeout.report),
    ("health_timeout_ns", config.healthTimeout.report),
    ("flush_count", .nat config.limits.flushCount), ("flush_ms", .nat config.limits.flushMillis),
    ("flush_interval_ns", config.limits.interval.report), ("strict", .bool settings.strict),
    ("failure_capacity", .nat settings.failureCapacity),
    ("bulk_retry", settings.bulkPolicy.report)]

/-- The description of the settings of a bridge. -/
def BridgeConfig.report (config : BridgeConfig) : Json :=
  .object [("engine_url", .string config.engineUrl),
    ("request_timeout_ms", .nat config.requestTimeoutMillis),
    ("batch_flush_count", .nat config.flushCount), ("batch_flush_ms", .nat config.flushMillis),
    ("strict_consistency", .bool config.strict), ("max_page_size", .nat config.maxPageSize),
    ("health_timeout_ms", .nat config.healthTimeoutMillis),
    ("bulk_max_retries", .nat config.bulkAttempts),
    ("bulk_initial_backoff_ms", .nat config.bulkInitialMillis),
    ("bulk_max_backoff_ms", .nat config.bulkMaximumMillis),
    ("failure_channel_capacity", .nat config.failureCapacity),
    ("default_index_name", .string config.defaultIndex),
    ("recreate_indexes_on_open", .bool config.recreateOnOpen),
    ("entities", .list EntityDeclaration.report config.schema.entities),
    ("derived", config.derived)]

/-! ## Errors -/

/-- How a message begins that tells of a request which was not sent; what follows depends on the
network. -/
def unsent : List Char := "connection error: error sending request".toList

/-- A message up to the first request that was not sent. -/
def upToUnsent : List Char → List Char
  | [] => []
  | c :: rest =>
    if unsent.isPrefixOf (c :: rest) then "connection error: -".toList else c :: upToUnsent rest

/-- The description of a message. -/
def messageReport (message : String) : Json := .string (String.ofList (upToUnsent message.toList))

/-- The description of an error. -/
def errorReport (kind message : String) (retryable : Bool) : Json :=
  .object [("error", .string kind), ("message", messageReport message),
    ("retryable", .bool retryable)]

/-- The description of an error of the engine. -/
def EngineError.report (cause : EngineError) : Json :=
  errorReport cause.kind cause.message cause.isRetryable

/-- The description of an error. -/
def BridgeError.report (cause : BridgeError) : Json :=
  errorReport cause.kind cause.message cause.isRetryable

/-- The description of a failure. -/
def BulkFailure.report (failure : BulkFailure) : Json :=
  .object [("kind", .string failure.kind.name), ("attempts", .nat failure.attempts),
    ("message", messageReport failure.reason),
    ("items", failure.items |> .list fun item => item.toJson.asText),
    ("as_error", failure.error.report)]

/-! ## The engine -/

/-- The description of a rejected write. -/
def Rejection.report (rejection : Rejection) : Json :=
  .object [("position", .nat rejection.position), ("id", .string rejection.id),
    ("status", .nat rejection.status), ("reason", .string rejection.reason)]

/-- The description of an answer to a bulk request. -/
def BulkResponse.report (response : BulkResponse) : Json :=
  .object [("took", .nat response.tookMillis), ("success", .bool response.isSuccess),
    ("failures", .list Rejection.report response.rejections)]

/-- The description of a hit. -/
def Hit.report (hit : Hit) : Json :=
  .object [("index", .string hit.index), ("type", .orNull .string hit.entityType),
    ("id", .string hit.id), ("score", .orNull Binary64.report hit.score),
    ("sort", (Json.array hit.sort).asText)]

/-- The description of a failure of a part of an index. -/
def ShardFailure.report (failure : ShardFailure) : Json :=
  .object [("index", .orNull .string failure.index), ("shard", .orNull .int failure.shard),
    ("reason", .string failure.reason)]

/-- The description of an answer to a search. -/
def SearchResponse.report (response : SearchResponse) : Json :=
  .object [("total", .nat response.total),
    ("shard_failures", .list ShardFailure.report response.shardFailures),
    ("hits", .list Hit.report response.hits)]

/-- The description of the health of an index. -/
def IndexHealth.report (health : IndexHealth) : Json :=
  .object [("status", .string health.status.name), ("timed_out", .bool health.timedOut)]

/-- The description of a write. -/
def Operation.report : Operation → Json
  | .put index entityType id fields =>
    .object [("index", .string index), ("type", .string entityType), ("id", .string id),
      ("source", (Json.object fields).asText)]
  | .remove index entityType id =>
    .object [("index", .string index), ("type", .string entityType), ("id", .string id),
      ("delete", .bool true)]

/-- The description of a search request. -/
def SearchRequest.report (request : SearchRequest) : Json :=
  .object [("index", .string request.index), ("body", request.body.asText)]

/-- The description of a request. -/
def Call.report : Call → Json
  | .bulk operations => .array [.string "bulk", .list Operation.report operations]
  | .refresh indices => .array [.string "refresh", .strings indices]
  | .indexExists index => .array [.string "index_exists", .string index]
  | .createIndex index mapping =>
    .array [.string "create_index", .string index, mapping.asText]
  | .deleteIndex index => .array [.string "delete_index", .string index]
  | .health index _ _ => .array [.string "cluster_health", .string index]
  | .search request => .array [.string "search", request.report]

/-! ## Searches and bridges -/

/-- The description of an identifier. -/
def EntityId.report : EntityId → Json
  | .integer n => .object [("long", .int n)]
  | .text s => .object [("str", .string s)]

/-- The description of a reference. -/
def EntityReference.report (reference : EntityReference) : Json :=
  .object [("type", .string reference.entityType), ("id_field", .string reference.idField),
    ("id", reference.id.report)]

/-- The description of a page of search results. -/
def SearchPage.report (page : SearchPage) : Json :=
  .object [("total", .nat page.total), ("refs", .list EntityReference.report page.references)]

/-- The description of a batch. -/
def Batch.report (batch : Batch Json) : Json :=
  .object [("items", .array batch.items), ("reason", .string batch.reason.name),
    ("len", .nat batch.items.length), ("empty", .bool batch.items.isEmpty)]

/-- The description of a queue. -/
def Queue.report (queue : Queue) : Json :=
  .object [("state", .string queue.state.name), ("pending", .nat queue.pending.size),
    ("strict", .bool queue.strict)]

/-- The description of a bridge whose largest page is `maxPageSize`. -/
def BridgeStatus.report (status : BridgeStatus) (maxPageSize : Nat) : Json :=
  .object [("state", .string status.state.name),
    ("queue", status.queue |> .orNull fun state => .string state.name),
    ("pending", .nat status.pending), ("strict", .bool status.strict),
    ("quiescent", .bool status.isQuiescent), ("ready", .bool (status.state == .ready)),
    ("watched", .string status.state.name), ("max_page_size", .nat maxPageSize)]

end EntitySearch

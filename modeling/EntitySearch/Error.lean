import EntitySearch.Engine.Error
import EntitySearch.Schema.Error

/-!
# What a bridge can report

* `BridgeError`: the causes.
* `BridgeError.message`, `BridgeError.kind`: their wording and their names.
* `BridgeError.isRetryable`: whether the same call could succeed later.
-/

namespace EntitySearch

/-- Why a bridge, a queue, an index administration or a search fails. -/
inductive BridgeError where
  /-- The schema does not know what is asked for, or is refused. -/
  | schema (cause : SchemaError)
  /-- The query tree has no meaning. -/
  | meaningless (reason : String)
  /-- A batch was not delivered. -/
  | bulkSubmission (attempts : Nat) (reason : String)
  /-- A batch was written but not made visible to searches. -/
  | refresh (attempts : Nat) (reason : String)
  /-- An index was not created. -/
  | schemaCreation (index reason : String)
  /-- An index was created but did not become usable in time. -/
  | clusterTimeout (index : String) (waited : Duration)
  /-- A part of the index reported a failure; a search has no partial results. -/
  | searchExecution (reason : String)
  /-- The engine has no answer. -/
  | engine (cause : EngineError)
  /-- The loader of entities failed. -/
  | load (reason : String)
  /-- The queue takes no more items. -/
  | queueStopped
  /-- The bridge is not open. -/
  | notOpen
deriving DecidableEq

namespace BridgeError

/-- The name of a batch in messages. -/
def batchName : String := "BATCH"

/-- What became of a batch, after how many attempts, and why. -/
def batchMessage (what : String) (attempts : Nat) (reason : String) : String :=
  what ++ " batch " ++ batchName ++ " failed after " ++ toString attempts ++ " attempt(s): " ++
    reason

/-- The wording of an error. -/
def message : BridgeError → String
  | .schema cause => "schema error: " ++ cause.message
  | .meaningless reason => "translation error: " ++ reason
  | .bulkSubmission attempts reason => batchMessage "bulk submission of" attempts reason
  | .refresh attempts reason => batchMessage "refresh after" attempts reason
  | .schemaCreation index reason => "failed to create index '" ++ index ++ "': " ++ reason
  | .clusterTimeout index waited =>
    "index '" ++ index ++ "' did not reach yellow health within " ++ waited.text
  | .searchExecution reason => "search failed: " ++ reason
  | .engine cause => "transport error: " ++ cause.message
  | .load reason => "entity loading failed: " ++ reason
  | .queueStopped => "indexing queue is stopped"
  | .notOpen => "bridge is not open"

/-- The name of a cause. -/
def kind : BridgeError → String
  | .schema cause => cause.kind
  | .meaningless _ => "Translation"
  | .bulkSubmission _ _ => "BulkSubmission"
  | .refresh _ _ => "Refresh"
  | .schemaCreation _ _ => "SchemaCreation"
  | .clusterTimeout _ _ => "ClusterTimeout"
  | .searchExecution _ => "SearchExecution"
  | .engine cause => cause.kind
  | .load _ => "Load"
  | .queueStopped => "QueueStopped"
  | .notOpen => "NotOpen"

/-- Engine errors that may pass, and indices that are not usable yet. -/
def isRetryable : BridgeError → Bool
  | .engine cause => cause.isRetryable
  | .clusterTimeout _ _ => true
  | _ => false

end BridgeError

end EntitySearch

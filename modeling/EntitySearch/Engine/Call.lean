import EntitySearch.Engine.Health
import EntitySearch.Engine.Operation
import EntitySearch.Engine.Response
import EntitySearch.Engine.Search

/-!
# Requests to the engine

The only way in which the other parts speak to an engine.

* `Method`: the kinds of requests, and `Method.Answer`, what is answered to each of them.
* `Call`: a request.
* `Outcome`: an answer or an error.
-/

namespace EntitySearch

/-- What became of a request to create an index. -/
inductive Creation where
  | created (acknowledged : Bool)
  | alreadyExists
deriving DecidableEq

/-- What became of a request to create an index, in words. -/
def Creation.text : Creation → String
  | .created acknowledged =>
    "Created \x7b acknowledged: " ++ (if acknowledged then "true" else "false") ++ " \x7d"
  | .alreadyExists => "AlreadyExists"

/-- The kinds of requests. -/
inductive Method where
  | bulk
  | refresh
  | indexExists
  | createIndex
  | deleteIndex
  | health
  | search
deriving DecidableEq

/-- What is answered to a request. -/
def Method.Answer : Method → Type
  | .bulk => BulkResponse
  | .refresh => Unit
  | .indexExists => Bool
  | .createIndex => Creation
  | .deleteIndex => Unit
  | .health => IndexHealth
  | .search => SearchResponse

/-- The answer to a request, or why there is none. -/
abbrev Outcome (method : Method) := Except EngineError method.Answer

/-- A request. -/
inductive Call where
  /-- Applies writes in their order. -/
  | bulk (operations : List Operation)
  /-- Makes all writes to some indices visible to searches. -/
  | refresh (indices : List String)
  /-- Asks whether an index exists. -/
  | indexExists (index : String)
  /-- Creates an index with a mapping. -/
  | createIndex (index : String) (mapping : Json)
  /-- Removes an index. -/
  | deleteIndex (index : String)
  /-- Waits for a status of an index. -/
  | health (index : String) (status : HealthStatus) (limit : Duration)
  /-- Searches an index. -/
  | search (request : SearchRequest)

namespace Call

/-- The kind of a request. -/
def method : Call → Method
  | .bulk _ => .bulk
  | .refresh _ => .refresh
  | .indexExists _ => .indexExists
  | .createIndex _ _ => .createIndex
  | .deleteIndex _ => .deleteIndex
  | .health _ _ _ => .health
  | .search _ => .search

/-- A request in one line. -/
def summary : Call → String
  | .bulk operations => "bulk " ++ toString operations.length
  | .refresh indices => "refresh " ++ ",".intercalate indices
  | .indexExists index => "index_exists " ++ index
  | .createIndex index _ => "create_index " ++ index
  | .deleteIndex index => "delete_index " ++ index
  | .health index status limit =>
    "cluster_health " ++ index ++ " " ++ status.name ++ " " ++ toString limit.millis
  | .search request => "search " ++ request.index

/-- What is answered to a request. -/
abbrev Answer (call : Call) := call.method.Answer

/-- What can be answered to a request. -/
abbrev Outcome (call : Call) := EntitySearch.Outcome call.method

end Call

end EntitySearch

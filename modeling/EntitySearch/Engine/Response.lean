import EntitySearch.Engine.Error
import EntitySearch.Json.Printer
import EntitySearch.Schema.Descriptor

/-!
# Answers of the engine

* `BulkResponse`: which writes of a request were rejected; `BulkResponse.ofJson` reads it.
* `SearchResponse`: the hits of a search and the failures of parts of the index;
  `SearchResponse.ofJson` reads it.
* `errorReason`: the reason that an answer gives for an error.
-/

namespace EntitySearch

/-- The reason given for an error: a plain text, or the type and the reason of an error object. -/
def errorReason : Json → String
  | .string reason => reason
  | .object members =>
    match Fields.find? members "type", Fields.find? members "reason" with
    | some (.string kind), some (.string reason) => kind ++ ": " ++ reason
    | _, some (.string reason) => reason
    | _, _ => (Json.object members).text
  | value => value.text

/-! ## Bulk requests -/

/-- A write that was rejected, by its position in the request. -/
structure Rejection where
  position : Nat
  id : String
  status : Nat
  reason : String
deriving DecidableEq

/-- The answer to a bulk request. -/
structure BulkResponse where
  tookMillis : Nat := 0
  rejections : List Rejection := []
deriving DecidableEq

namespace BulkResponse

/-- Whether all writes were applied. -/
def isSuccess (response : BulkResponse) : Bool := response.rejections.isEmpty

/-- The result of a write: the first member of its entry. -/
def entryResult? : Json → Option Json
  | .object ((_, result) :: _) => some result
  | _ => none

/-- The rejection that an entry reports, if its result carries an error. -/
def rejection? (position : Nat) (entry : Json) : Option Rejection := do
  let result ← entryResult? entry
  let error ← result.get? "error"
  return {
    position
    id := ((result.get? "_id").bind Json.asString?).getD ""
    status := ((result.get? "status").bind Json.asNat?).getD 0 % 65536
    reason := errorReason error }

/-- The rejections that entries report, counted from `position` on. -/
def rejectionsFrom (position : Nat) : List Json → List Rejection
  | [] => []
  | entry :: rest => (rejection? position entry).toList ++ rejectionsFrom (position + 1) rest

/-- Reads the answer to a bulk request. Entries are looked at only if the answer says that there
are errors. -/
def ofJson (body : Json) : Except EngineError BulkResponse :=
  let tookMillis := ((body.get? "took").bind Json.asNat?).getD 0
  if ((body.get? "errors").bind Json.asBool?).getD false then
    match (body.get? "items").bind Json.asArray? with
    | some entries => .ok ⟨tookMillis, rejectionsFrom 0 entries⟩
    | none => .error (.decode "bulk response without items")
  else .ok ⟨tookMillis, []⟩

end BulkResponse

/-! ## Searches -/

/-- A failure of a part of an index. -/
structure ShardFailure where
  index : Option String
  shard : Option Int
  reason : String

/-- A document found by a search. -/
structure Hit where
  index : String
  /-- The entity type, if the engine reports one. -/
  entityType : Option String
  id : String
  score : Option Binary64
  sort : List Json

/-- The answer to a search. -/
structure SearchResponse where
  total : Nat := 0
  shardFailures : List ShardFailure := []
  hits : List Hit := []

namespace SearchResponse

/-- Reads a failure of a part of an index. -/
def shardFailure (value : Json) : ShardFailure where
  index := (value.get? "index").bind Json.asString?
  shard := (value.get? "shard").bind Json.asInt?
  reason := ((value.get? "reason").map errorReason).getD ""

/-- The entity type that a hit reports: in its document, else as its type, unless that is the
engine's name for documents of no type. -/
def hitType? (hit : Json) : Option String :=
  match (hit.get? "_source").bind fun source => (source.get? typeField).bind Json.asString? with
  | some entityType => some entityType
  | none => ((hit.get? "_type").bind Json.asString?).filter fun entityType => entityType ≠ "_doc"

/-- Reads a hit. -/
def hitOf (hit : Json) : Except EngineError Hit :=
  match (hit.get? "_id").bind Json.asString? with
  | none => .error (.decode "hit without _id")
  | some id =>
    .ok {
      index := ((hit.get? "_index").bind Json.asString?).getD ""
      entityType := hitType? hit
      id
      score := (hit.get? "_score").bind Json.asBinary64?
      sort := ((hit.get? "sort").bind Json.asArray?).getD [] }

/-- The number of documents found: a number, or an object with a value. -/
def totalOf : Option Json → Nat
  | some (.number n) => n.asNat?.getD 0
  | some total => ((total.get? "value").bind Json.asNat?).getD 0
  | none => 0

/-- Reads the answer to a search. -/
def ofJson (body : Json) : Except EngineError SearchResponse :=
  let failures := (body.get? "_shards").bind fun shards =>
    (shards.get? "failures").bind Json.asArray?
  match body.get? "hits" with
  | none => .error (.decode "search response without hits")
  | some found => do
    let hits ← (((found.get? "hits").bind Json.asArray?).getD []).mapM hitOf
    return {
      total := totalOf (found.get? "total")
      shardFailures := (failures.getD []).map shardFailure
      hits }

end SearchResponse

end EntitySearch

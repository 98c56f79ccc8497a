import EntitySearch.Engine.Call
import EntitySearch.Engine.Order
import EntitySearch.Sorting.Stable

/-!
# An engine in memory

The engine holds its indices as lists of documents, keeps a record of every request, and can be
told to fail. A request is answered in two steps, since time may pass between them: it is
received, which says how long the answer takes, and then it is answered.

* `MemoryIndex`: the documents of an index; `MemoryIndex.apply` writes to it.
* `Faults`: what is to go wrong.
* `MemoryEngine`: the engine, with one function for each kind of request.
* `MemoryEngine.receive`, `MemoryEngine.answer`: the two steps of any request.
-/

namespace EntitySearch

/-! ## Indices -/

/-- A stored document. -/
structure Document where
  id : String
  entityType : String
  source : Fields

/-- An index. -/
structure MemoryIndex where
  mapping : Json := .null
  /-- The documents that searches see, in the order in which they were first written. -/
  documents : List Document := []
  /-- The writes that searches do not see yet. -/
  unrefreshed : List Operation := []

namespace MemoryIndex

/-- Puts a document in the place of the one with its identifier, or at the end. -/
def put (document : Document) : List Document → List Document
  | [] => [document]
  | old :: rest => if old.id = document.id then document :: rest else old :: put document rest

/-- The documents after a write. -/
def applyTo (documents : List Document) : Operation → List Document
  | .put _ entityType id fields => put ⟨id, entityType, fields⟩ documents
  | .remove _ _ id => documents.filter fun document => document.id ≠ id

/-- Makes a write visible. -/
def apply (index : MemoryIndex) (operation : Operation) : MemoryIndex :=
  { index with documents := applyTo index.documents operation }

/-- Keeps a write for the next refresh. -/
def postpone (index : MemoryIndex) (operation : Operation) : MemoryIndex :=
  { index with unrefreshed := index.unrefreshed ++ [operation] }

/-- Makes all postponed writes visible. -/
def refresh (index : MemoryIndex) : MemoryIndex :=
  { index with documents := index.unrefreshed.foldl applyTo index.documents, unrefreshed := [] }

/-- The document of an identifier. -/
def find? (index : MemoryIndex) (id : String) : Option Document :=
  index.documents.find? fun document => document.id = id

end MemoryIndex

/-- Indices by name. -/
abbrev Indices := List (String × MemoryIndex)

namespace Indices

/-- The index of a name. -/
def find? : Indices → String → Option MemoryIndex
  | [], _ => none
  | (key, index) :: rest, name => if key = name then some index else find? rest name

/-- Puts an index in the place of the one with its name, or at the end. -/
def set : Indices → String → MemoryIndex → Indices
  | [], name, index => [(name, index)]
  | (key, old) :: rest, name, index =>
    if key = name then (key, index) :: rest else (key, old) :: set rest name index

/-- Removes the index of a name. -/
def erase (indices : Indices) (name : String) : Indices := indices.filter fun (key, _) => key ≠ name

end Indices

/-! ## Faults -/

/-- An error for a number of requests to come. -/
structure Outage where
  error : EngineError
  left : Nat
deriving DecidableEq

/-- The error for the next request, and the requests after it. -/
def Outage.take : Option Outage → Option EngineError × Option Outage
  | some ⟨error, left + 1⟩ => (some error, some ⟨error, left⟩)
  | outage => (none, outage)

/-- What is to go wrong. -/
structure Faults where
  bulkOutage : Option Outage := none
  refreshOutage : Option Outage := none
  bulkDelay : Duration := .zero
  healthDelay : Duration := .zero
  /-- The identifiers of documents that are rejected. -/
  rejected : List String := []
  shardFailure : Option String := none
  unacknowledged : Bool := false
  health : HealthStatus := .green

/-! ## The engine -/

/-- An engine in memory. -/
structure MemoryEngine where
  /-- Whether writes wait for a refresh before searches see them. -/
  postpones : Bool := false
  indices : Indices := []
  /-- The requests received, the first one first. -/
  requests : List Call := []
  faults : Faults := {}

namespace MemoryEngine

/-- Whether there is an index. -/
def hasIndex (engine : MemoryEngine) (name : String) : Bool := (engine.indices.find? name).isSome

/-- The documents of an index that searches see. -/
def documents (engine : MemoryEngine) (name : String) : List Document :=
  ((engine.indices.find? name).map (·.documents)).getD []

/-- Writes a document, or keeps the write for the next refresh. A missing index is created. -/
def write (engine : MemoryEngine) (operation : Operation) : MemoryEngine :=
  let index := (engine.indices.find? operation.index).getD {}
  let index := if engine.postpones then index.postpone operation else index.apply operation
  { engine with indices := engine.indices.set operation.index index }

/-- Why a document is rejected. -/
def rejection (position : Nat) (id : String) : Rejection :=
  ⟨position, id, 400, "mapper_parsing_exception: document rejected"⟩

/-- Applies the writes of a request in order, counted from `position` on, except to documents
that are rejected. -/
def writeAll (position : Nat) : MemoryEngine → List Operation → MemoryEngine × List Rejection
  | engine, [] => (engine, [])
  | engine, operation :: rest =>
    if engine.faults.rejected.contains operation.id then
      let (engine, rejections) := writeAll (position + 1) engine rest
      (engine, rejection position operation.id :: rejections)
    else writeAll (position + 1) (engine.write operation) rest

/-- Applies the writes of a bulk request, which takes `delay`. -/
def bulk (engine : MemoryEngine) (delay : Duration) (operations : List Operation) :
    MemoryEngine × Outcome .bulk :=
  match Outage.take engine.faults.bulkOutage with
  | (some error, outage) =>
    ({ engine with faults := { engine.faults with bulkOutage := outage } }, .error error)
  | (none, _) =>
    let (engine, rejections) := writeAll 0 engine operations
    (engine, .ok ⟨delay.millis, rejections⟩)

/-- Makes the writes to indices visible, up to the first one that is missing. -/
def refreshAll : MemoryEngine → List String → MemoryEngine × Outcome .refresh
  | engine, [] => (engine, .ok ())
  | engine, name :: rest =>
    match engine.indices.find? name with
    | none => (engine, .error (.notFound name))
    | some index => refreshAll { engine with indices := engine.indices.set name index.refresh } rest

/-- Answers a refresh request. -/
def refresh (engine : MemoryEngine) (names : List String) : MemoryEngine × Outcome .refresh :=
  match Outage.take engine.faults.refreshOutage with
  | (some error, outage) =>
    ({ engine with faults := { engine.faults with refreshOutage := outage } }, .error error)
  | (none, _) => refreshAll engine names

/-- Creates an index, unless there is one. -/
def createIndex (engine : MemoryEngine) (name : String) (mapping : Json) :
    MemoryEngine × Outcome .createIndex :=
  if engine.hasIndex name then (engine, .ok .alreadyExists)
  else
    ({ engine with indices := engine.indices.set name { mapping } },
      .ok (.created (!engine.faults.unacknowledged)))

/-- Removes an index. -/
def deleteIndex (engine : MemoryEngine) (name : String) : MemoryEngine × Outcome .deleteIndex :=
  if engine.hasIndex name then ({ engine with indices := engine.indices.erase name }, .ok ())
  else (engine, .error (.notFound name))

/-- The health of every index, compared with the status waited for. -/
def healthOf (engine : MemoryEngine) (status : HealthStatus) : IndexHealth :=
  ⟨engine.faults.health, engine.faults.health < status⟩

/-! ## Searches -/

/-- Whether a document is of the entity types of a request and matches its query. -/
def isHit (request : SearchRequest) (document : Document) : Bool :=
  (request.entityTypes.isEmpty || request.entityTypes.contains document.entityType) &&
    request.query.holds document.source

/-- The documents that a request finds, in the order of its sort. There is no result if that order
contradicts itself. -/
def found? (request : SearchRequest) (documents : List Document) : Option (List Document) :=
  let matching := documents.filter (isHit request)
  if request.sort.isEmpty then some matching
  else Sorting.sort? (fun a b => compareSources request.sort a.source b.source == .lt) matching

/-- The score of every hit of a search that is not sorted. -/
def plainScore : Option Binary64 := Binary64.ofNat? 1

/-- A document as a hit of a search. -/
def hit (request : SearchRequest) (document : Document) : Hit where
  index := request.index
  entityType := some document.entityType
  id := document.id
  score := if request.sort.isEmpty then plainScore else none
  sort := request.sort.map fun key => (fieldValue? document.source key.path).getD .null

/-- The page of a search among the documents found. -/
def page (request : SearchRequest) (documents : List Document) : List Hit :=
  ((documents.drop request.offset).take request.limit).map (hit request)

/-- Answers a search. The engine breaks off one whose documents it cannot put in order. -/
def search? (engine : MemoryEngine) (request : SearchRequest) : Option (Outcome .search) :=
  match engine.indices.find? request.index with
  | none => some (.error (.notFound request.index))
  | some index =>
    (found? request index.documents).map fun documents =>
      .ok {
        total := documents.length
        shardFailures := engine.faults.shardFailure.toList.map fun reason =>
          ⟨some request.index, some 0, reason⟩
        hits := page request documents }

/-! ## Requests -/

/-- Records a request. -/
def record (engine : MemoryEngine) (call : Call) : MemoryEngine :=
  { engine with requests := engine.requests ++ [call] }

/-- How many requests of a kind were received. -/
def count (engine : MemoryEngine) (method : Method) : Nat :=
  (engine.requests.filter fun call => call.method = method).length

/-- The operations of every bulk request received. -/
def bulkRequests (engine : MemoryEngine) : List (List Operation) :=
  engine.requests.filterMap fun
    | .bulk operations => some operations
    | _ => none

/-- The indices of every refresh request received. -/
def refreshes (engine : MemoryEngine) : List (List String) :=
  engine.requests.filterMap fun
    | .refresh indices => some indices
    | _ => none

/-- The last search received. -/
def lastSearch? (engine : MemoryEngine) : Option SearchRequest :=
  (engine.requests.filterMap fun
    | .search request => some request
    | _ => none).getLast?

/-- The document of an identifier that searches see. -/
def document? (engine : MemoryEngine) (index id : String) : Option Document :=
  (engine.indices.find? index).bind (·.find? id)

/-- How long the answer to a request takes. -/
def delay (engine : MemoryEngine) : Call → Duration
  | .bulk _ => engine.faults.bulkDelay
  | .health _ _ _ => engine.faults.healthDelay
  | _ => .zero

/-- Answers a request, whose answer took `delay`, or breaks it off. -/
def answer? (engine : MemoryEngine) (delay : Duration) :
    (call : Call) → MemoryEngine × Option call.Outcome
  | .bulk operations => (engine.bulk delay operations).map id some
  | .refresh indices => (engine.refresh indices).map id some
  | .indexExists index => (engine, some (.ok (engine.hasIndex index)))
  | .createIndex index mapping => (engine.createIndex index mapping).map id some
  | .deleteIndex index => (engine.deleteIndex index).map id some
  | .health _ status _ => (engine, some (.ok (engine.healthOf status)))
  | .search request => (engine, engine.search? request)

end MemoryEngine

end EntitySearch

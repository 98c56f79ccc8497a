import EntitySearch.Engine.Link
import EntitySearch.Search.Identifier
import EntitySearch.Search.Request

/-!
# Searching for entities

The hits of a search are read back as references to entities, in their order. An answer in which
a part of the index has failed is no answer.

* `EntityReference`: an entity that was found.
* `SearchPage`: the result of a search.
* `SearchPage.ofResponse`: reading an answer.
* `Searcher.execute`: the procedure.
-/

namespace EntitySearch

/-- An entity that was found. -/
structure EntityReference where
  entityType : String
  idField : String
  id : EntityId
deriving DecidableEq

/-- The entity of a hit. -/
def EntityReference.ofHit (descriptor : Descriptor) (rawId : String) : EntityReference :=
  ⟨descriptor.entityType, descriptor.idField, EntityId.decode rawId descriptor.idType⟩

/-- A reference in one word: the entity type and the identifier. -/
def EntityReference.text (reference : EntityReference) : String :=
  reference.entityType ++ "#" ++ reference.id.toText

/-- A page of search results. -/
structure SearchPage where
  /-- How many documents were found, also beyond the page. -/
  total : Nat
  references : List EntityReference
deriving DecidableEq

namespace SearchPage

/-- The entity of a hit. A hit that has no entity type is taken for one of the first type asked
for; one of a type that was not asked for is known from the schema. -/
def referenceOf (resolver : Resolver) (first : Descriptor) (rest : List Descriptor) (hit : Hit) :
    Except SchemaError EntityReference :=
  let entityType := hit.entityType.getD first.entityType
  match (first :: rest).find? fun descriptor => descriptor.entityType = entityType with
  | some descriptor => .ok (.ofHit descriptor hit.id)
  | none => (resolver.descriptor entityType).map fun descriptor => .ofHit descriptor hit.id

/-- The entities of hits, in their order. -/
def referencesOf (resolver : Resolver) (first : Descriptor) (rest : List Descriptor) :
    List Hit → Except SchemaError (List EntityReference)
  | [] => .ok []
  | hit :: hits =>
    match referenceOf resolver first rest hit with
    | .error cause => .error cause
    | .ok found => (referencesOf resolver first rest hits).map (found :: ·)

/-- Reads an answer: the first failure of a part of the index decides, then the first hit of an
unknown entity type. -/
def ofResponse (resolver : Resolver) (first : Descriptor) (rest : List Descriptor)
    (response : SearchResponse) : Except BridgeError SearchPage :=
  match response.shardFailures with
  | failure :: _ => .error (.searchExecution failure.reason)
  | [] =>
    match referencesOf resolver first rest response.hits with
    | .error cause => .error (.schema cause)
    | .ok found => .ok ⟨response.total, found⟩

end SearchPage

/-- How searches are made. -/
structure Searcher where
  resolver : Resolver
  /-- The most entities that one search gives. -/
  maxPageSize : Nat

namespace Searcher

/-- A searcher whose pages hold at least one entity. -/
def new (resolver : Resolver) (maxPageSize : Nat) : Searcher := ⟨resolver, max maxPageSize 1⟩

/-- The request of a search. -/
def request (searcher : Searcher) (search : Search) : Except BridgeError SearchRequest :=
  search.request searcher.resolver searcher.maxPageSize

/-- What is measured of an answer and what it was read as. A search that ends with a hit of an
unknown entity type is not counted. -/
def measurements (response : SearchResponse) : Except BridgeError SearchPage → List Measurement
  | .ok page => [.search "success" page.references.length]
  | .error (.searchExecution _) =>
    [.search "shard_failure" 0, .shardFailures response.shardFailures.length]
  | .error _ => []

/-- Notes measurements. -/
def recordAll : List Measurement → Procedure Link Unit
  | [] => return ()
  | measurement :: rest => do
    Link.record measurement
    recordAll rest

/-- Sends the request of a search and reads the answer. -/
def executeRequest (searcher : Searcher) (request : SearchRequest) (first : Descriptor)
    (rest : List Descriptor) : Procedure Link (Except BridgeError SearchPage) := do
  match ← Link.call (.search request) with
  | .error cause =>
    Link.record (.search "error" 0)
    return .error (.engine cause)
  | .ok response =>
    let page := SearchPage.ofResponse searcher.resolver first rest response
    recordAll (measurements response page)
    return page

/-- Searches for entities. -/
def execute (searcher : Searcher) (search : Search) :
    Procedure Link (Except BridgeError SearchPage) :=
  match searcher.request search, search.descriptors searcher.resolver with
  | .error cause, _ => return .error cause
  | .ok _, .error cause => return .error cause
  | .ok request, .ok (first, rest) => searcher.executeRequest request first rest

end Searcher

end EntitySearch

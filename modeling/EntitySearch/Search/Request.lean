import EntitySearch.Engine.Search
import EntitySearch.Query.Sort
import EntitySearch.Query.Targeting

/-!
# From a search to a request

A search is for entities of one or more types. Its request goes to the index of the first type,
and the query and the sort order are read as that type declares its fields.

* `Search`: a search.
* `Search.request`: its request.
-/

namespace EntitySearch

/-- A search for entities. -/
structure Search where
  /-- The entity types, the first one of which decides the index. -/
  entityTypes : List String
  query : Query
  sort : SortSpec := []
  offset : Nat := 0
  /-- How many entities are wanted; as many as allowed if it is not said. -/
  limit : Option Nat := none

namespace Search

/-- The descriptors of entity types. -/
def descriptorsOf (resolver : Resolver) : List String → Except BridgeError (List Descriptor)
  | [] => .ok []
  | entity :: rest =>
    match resolver.descriptor entity with
    | .error cause => .error (.schema cause)
    | .ok descriptor => (descriptorsOf resolver rest).map (descriptor :: ·)

/-- The paths to sort by. -/
def sortPaths (descriptor : Descriptor) : SortSpec → Except BridgeError (List SortPath)
  | [] => .ok []
  | key :: rest =>
    match descriptor.field? key.field with
    | .error cause => .error (.schema cause)
    | .ok field => (sortPaths descriptor rest).map (⟨field.rawPath, key.ascending⟩ :: ·)

/-- How many entities are asked for: no more than the largest page. -/
def pageSize (search : Search) (maxPageSize : Nat) : Nat :=
  min (search.limit.getD maxPageSize) maxPageSize

/-- The request of a search whose first entity type is `first`. -/
def requestFor (search : Search) (resolver : Resolver) (maxPageSize : Nat) (first : Descriptor)
    (entityTypes : List String) : Except BridgeError SearchRequest := do
  let query ← targetFor resolver search.query first.entityType
  let sort ← sortPaths first search.sort
  return {
    index := first.indexName, entityTypes, query, sort
    offset := search.offset
    limit := search.pageSize maxPageSize }

/-- The descriptors of the entity types of a search, of which there is at least one. -/
def descriptors (search : Search) (resolver : Resolver) :
    Except BridgeError (Descriptor × List Descriptor) :=
  match descriptorsOf resolver search.entityTypes with
  | .error cause => .error cause
  | .ok [] => .error (.meaningless "search targets no entity type")
  | .ok (first :: rest) => .ok (first, rest)

/-- The request of a search. -/
def request (search : Search) (resolver : Resolver) (maxPageSize : Nat) :
    Except BridgeError SearchRequest := do
  let (first, rest) ← search.descriptors resolver
  search.requestFor resolver maxPageSize first ((first :: rest).map (·.entityType))

end Search

end EntitySearch

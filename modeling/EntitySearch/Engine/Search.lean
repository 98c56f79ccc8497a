import EntitySearch.Query.Target
import EntitySearch.Schema.Descriptor

/-!
# Search requests

* `SortPath`: a path of an index to sort by.
* `SearchRequest`: a search for the documents of some entity types in one index.
* `SearchRequest.body`: the body of the request.
-/

namespace EntitySearch

/-- A path of an index to sort by. -/
structure SortPath where
  path : String
  ascending : Bool
deriving DecidableEq

/-- A search in one index. -/
structure SearchRequest where
  index : String
  /-- The entity types of the documents; none means all. -/
  entityTypes : List String
  query : TargetQuery
  sort : List SortPath := []
  offset : Nat := 0
  limit : Nat := 10

namespace SearchRequest

/-- The query of a request, restricted to its entity types. -/
def restricted (request : SearchRequest) : Json :=
  if request.entityTypes.isEmpty then request.query.toJson
  else
    .object [("bool", .object [
      ("must", .array [request.query.toJson]),
      ("filter", .array [.object [("terms", .object [
        (typeField, Json.strings request.entityTypes)])]])])]

/-- A path to sort by, in the body of a request. -/
def sortJson (key : SortPath) : Json :=
  .object [(key.path, .object [("order", .string (if key.ascending then "asc" else "desc"))])]

/-- The body of a request. Of the documents themselves only the entity type is asked for. -/
def body (request : SearchRequest) : Json :=
  let sort :=
    if request.sort.isEmpty then [] else [("sort", Json.array (request.sort.map sortJson))]
  .object ([("query", request.restricted), ("from", Json.nat request.offset),
    ("size", Json.nat request.limit), ("_source", .array [.string typeField])] ++ sort)

end SearchRequest

end EntitySearch

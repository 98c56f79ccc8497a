import EntitySearch.Json.Basic

/-!
# Engine queries

A query as the engine evaluates it: on paths of an index instead of declared fields.

* `TargetQuery`: a query.
* `TargetQuery.toJson`: its form in a search request.
-/

namespace EntitySearch

/-- An engine query. -/
inductive TargetQuery where
  /-- Every document. -/
  | matchAll
  /-- The documents that match all of `must`, none of `mustNot`, and, if `must` is empty and
  `should` is not, at least one of `should`. -/
  | bool (must mustNot should : List TargetQuery)
  /-- The documents with a value at a path that fits a pattern. -/
  | wildcard (path pattern : String)
  /-- A text of terms. -/
  | queryString (text : String)

namespace TargetQuery

/-- Whether a query is the one for every document. -/
def isMatchAll : TargetQuery → Bool
  | .matchAll => true
  | _ => false

/-- A named list of queries; an empty one is left out. -/
def clauseMember (name : String) : List Json → Fields
  | [] => []
  | clauses => [(name, .array clauses)]

mutual
/-- The form of a query in a search request. -/
def toJson : TargetQuery → Json
  | .matchAll => .object [("match_all", .object [])]
  | .bool must mustNot should =>
    .object [("bool", .object (clauseMember "must" (listJson must) ++
      clauseMember "must_not" (listJson mustNot) ++ clauseMember "should" (listJson should)))]
  | .wildcard path pattern =>
    .object [("wildcard", .object [(path, .object [("value", .string pattern)])])]
  | .queryString text => .object [("query_string", .object [("query", .string text)])]
termination_by structural query => query
/-- The forms of a list of queries. -/
def listJson : List TargetQuery → List Json
  | [] => []
  | query :: rest => query.toJson :: listJson rest
termination_by structural queries => queries
end

end TargetQuery

end EntitySearch

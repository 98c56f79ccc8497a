import EntitySearch.Error
import EntitySearch.Query.Target
import EntitySearch.Query.Tree
import EntitySearch.Schema.Registry

/-!
# Engine queries of query trees

A tree becomes an engine query for one entity type. A wildcard on a field for exact values becomes a
wildcard on the path of these values; a wildcard on an analyzed field has no exact form and is
handed on as text. Inner groups give their clauses to the outermost group, each clause with its
own occur, and a group without clauses stands for every document.

* `ClauseLists`: the engine queries of the clauses of a group by occur.
* `Query.targetIn`: the engine query of a tree, with the descriptor of the entity type.
* `targetFor`: the engine query of a tree for an entity type by name.
-/

namespace EntitySearch

/-- The engine queries of clauses by occur. -/
structure ClauseLists where
  must : List TargetQuery := []
  mustNot : List TargetQuery := []
  should : List TargetQuery := []

namespace ClauseLists

/-- Whether there are no clauses. -/
def isEmpty (found : ClauseLists) : Bool :=
  found.must.isEmpty && found.mustNot.isEmpty && found.should.isEmpty

/-- Adds a clause at the end of the list of its occur; one without a recognized occur belongs to
no list. -/
def add? (found : ClauseLists) (query : TargetQuery) : Occur → Option ClauseLists
  | .must => some { found with must := found.must ++ [query] }
  | .mustNot => some { found with mustNot := found.mustNot ++ [query] }
  | .should => some { found with should := found.should ++ [query] }
  | .unrecognized => none

/-- The engine query of a group. -/
def target (found : ClauseLists) : TargetQuery :=
  if found.isEmpty then .matchAll else .bool found.must found.mustNot found.should

end ClauseLists

namespace Query

/-- The engine query of a wildcard. -/
def wildcardTarget (descriptor : Descriptor) (name pattern : String) :
    Except BridgeError TargetQuery :=
  match descriptor.field? name with
  | .error cause => .error (.schema cause)
  | .ok field =>
    if field.analyzed then .ok (.queryString (Query.wildcard name pattern).text)
    else .ok (.wildcard field.rawPath pattern)

/-- A clause whose occur has no meaning. -/
def unrecognizedClause (query : Query) : BridgeError :=
  .meaningless ("boolean clause '" ++ query.text ++ "' has no recognized occur")

mutual
/-- The engine query of a tree. -/
def targetIn (descriptor : Descriptor) : Query → Except BridgeError TargetQuery
  | .matchAll => .ok .matchAll
  | .wildcard field pattern => wildcardTarget descriptor field pattern
  | .verbatim text => .ok (.queryString text)
  | .group clauses => (flatten descriptor {} clauses).map ClauseLists.target
termination_by structural query => query
/-- The clauses of `found`, followed by those of a group and of its inner groups. -/
def flatten (descriptor : Descriptor) (found : ClauseLists) :
    List (Occur × Query) → Except BridgeError ClauseLists
  | [] => .ok found
  | (_, .group inner) :: rest => do
    let found ← flatten descriptor found inner
    flatten descriptor found rest
  | (occur, query) :: rest => do
    let target ← targetIn descriptor query
    match found.add? target occur with
    | some found => flatten descriptor found rest
    | none => .error (unrecognizedClause query)
termination_by structural clauses => clauses
end

end Query

/-- The engine query of a tree for an entity type. -/
def targetFor (resolver : Resolver) (query : Query) (entity : String) :
    Except BridgeError TargetQuery :=
  match resolver.descriptor entity with
  | .error cause => .error (.schema cause)
  | .ok descriptor => query.targetIn descriptor

end EntitySearch

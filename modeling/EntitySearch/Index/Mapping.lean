import EntitySearch.Error
import EntitySearch.Schema.Registry

/-!
# The layout of a shared index

Several entity types may live in one index. Its mapping has the properties of all of them; of
several declarations of one name the first counts.

* `mergedMapping`: the mapping of an index.
-/

namespace EntitySearch

/-- Adds properties; those whose names are taken are left out. -/
def mergeProperties (properties : Fields) (more : Fields) : Fields :=
  more.foldl
    (fun found (name, value) =>
      if Fields.contains found name then found else found ++ [(name, value)]) properties

/-- The properties and names of the entity types of an index, added to those already found. -/
def mergeTypes (resolver : Resolver) (index : String) (properties : Fields)
    (types : List String) : List String → Except SchemaError (Fields × List String)
  | [] => .ok (properties, types)
  | entity :: rest =>
    match resolver.descriptor entity with
    | .error cause => .error cause
    | .ok descriptor =>
      if descriptor.indexName = index then
        mergeTypes resolver index (mergeProperties properties descriptor.properties)
          (types ++ [entity]) rest
      else mergeTypes resolver index properties types rest

/-- The mapping of an index, for all its entity types. -/
def mergedMapping (resolver : Resolver) (index : String) : Except BridgeError Json :=
  match mergeTypes resolver index [] [] resolver.entityTypes with
  | .ok (properties, types) => .ok (Descriptor.mappingOf properties types)
  | .error cause => .error (.schema cause)

end EntitySearch

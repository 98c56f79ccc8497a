import EntitySearch.Schema.Error
import EntitySearch.Schema.Field

/-!
# Entity types

What is known of an entity type: the index its documents live in, its identifier, and its fields.
Several entity types may share an index; the reserved member `__type` of every document tells
them apart.

* `Descriptor`: an entity type.
* `Descriptor.field?`: a declared field.
* `Descriptor.mapping`: the layout of the index for this entity type alone.
-/

namespace EntitySearch

/-- The reserved member that holds the entity type of a document. -/
def typeField : String := "__type"

/-- How identifiers are read back: as they are, or as integers where they can be. -/
inductive IdType where
  | string
  | numeric
deriving DecidableEq

/-- An entity type. -/
structure Descriptor where
  entityType : String
  indexName : String
  idField : String
  idType : IdType := .numeric
  fields : List Field := []
deriving DecidableEq

namespace Descriptor

/-- The first declared field of a name. -/
def field? (descriptor : Descriptor) (name : String) : Except SchemaError Field :=
  match descriptor.fields.find? fun field => field.name = name with
  | some field => .ok field
  | none => .error (.unknownField descriptor.entityType name)

/-- The declaration of the reserved member: an exact value. -/
def typeFieldMapping : Json := .object [Field.typeDeclaration "keyword"]

/-- The declared properties of an entity type, the reserved member first. -/
def properties (descriptor : Descriptor) : Fields :=
  descriptor.fields.foldl (fun found field => Fields.insert found field.name field.mapping)
    [(typeField, typeFieldMapping)]

/-- A mapping of some properties, for the documents of some entity types. -/
def mappingOf (properties : Fields) (entityTypes : List String) : Json :=
  .object [("properties", .object properties),
    ("_meta", .object [("doc_types", Json.strings entityTypes)])]

/-- The layout of the index for this entity type alone. -/
def mapping (descriptor : Descriptor) : Json :=
  mappingOf descriptor.properties [descriptor.entityType]

end Descriptor

end EntitySearch

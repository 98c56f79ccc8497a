import EntitySearch.Json.Record
import EntitySearch.Schema.Registry

/-!
# Declared schemas

A schema as a caller writes it down, with defaults for what is left out, and its resolution into
registered descriptors.

* `SchemaDeclaration.ofJson?`: reading a declared schema.
* `SchemaDeclaration.resolve`: checking it. An entity type needs a name, an identifier field and
  fields of different names; the first offending entity type decides the error, and of several
  faults of one entity type the first in this order.
-/

namespace EntitySearch

/-- A declared field. -/
structure FieldDeclaration where
  name : String
  typeName : String := "String"
  analyzed : Bool := true

/-- A declared entity type. -/
structure EntityDeclaration where
  name : String
  index : Option String := none
  idField : Option String := none
  idType : IdType := .numeric
  fields : List FieldDeclaration := []

/-- A declared schema. -/
structure SchemaDeclaration where
  entities : List EntityDeclaration := []

/-- Reads the way in which identifiers are read back. -/
def IdType.ofJson? (value : Json) : Option IdType :=
  match value.choice? with
  | some "string" => some .string
  | some "numeric" => some .numeric
  | _ => none

/-- Reads a declared field. -/
def FieldDeclaration.ofJson? (value : Json) : Option FieldDeclaration := do
  let slots ← value.slots? ["name", "type", "analyzed"]
  match slots with
  | [name, typeName, analyzed] =>
    return {
      name := ← Json.required? Json.asString? name
      typeName := ← Json.optional? Json.asString? "String" typeName
      analyzed := ← Json.optional? Json.asBool? true analyzed }
  | _ => none

/-- Reads a declared entity type. -/
def EntityDeclaration.ofJson? (value : Json) : Option EntityDeclaration := do
  let slots ← value.slots? ["name", "index", "id_field", "id_type", "fields"]
  match slots with
  | [name, index, idField, idType, fields] =>
    return {
      name := ← Json.required? Json.asString? name
      index := ← Json.optional? (Json.nullable? Json.asString?) none index
      idField := ← Json.optional? (Json.nullable? Json.asString?) none idField
      idType := ← Json.optional? IdType.ofJson? .numeric idType
      fields := ← Json.optional? (Json.listOf? FieldDeclaration.ofJson?) [] fields }
  | _ => none

namespace SchemaDeclaration

/-- Reads a declared schema. -/
def ofJson? (value : Json) : Option SchemaDeclaration := do
  let slots ← value.slots? ["entities"]
  match slots with
  | [entities] =>
    return ⟨← Json.optional? (Json.listOf? EntityDeclaration.ofJson?) [] entities⟩
  | _ => none

/-- The declared fields of an entity type, if no name occurs twice; `found` holds those already
checked. -/
def resolveFields (entity : String) (found : List Field) :
    List FieldDeclaration → Except SchemaError (List Field)
  | [] => .ok found
  | declared :: rest =>
    if found.any fun field => field.name = declared.name then
      .error (.duplicateField entity declared.name)
    else
      resolveFields entity
        (found ++ [⟨declared.name, FieldType.ofDeclared declared.typeName, declared.analyzed⟩]) rest

/-- The text of an optional name that is given and not empty. -/
def given (name : Option String) : Option String := name.filter fun text => !text.isEmpty

/-- The descriptor of a declared entity type. One that names no index lives in the default
index. -/
def resolveEntity (defaultIndex : String) (entity : EntityDeclaration) :
    Except SchemaError Descriptor :=
  if entity.name.isEmpty then .error .emptyName
  else
    match given entity.idField with
    | none => .error (.missingId entity.name)
    | some idField => do
      let fields ← resolveFields entity.name [] entity.fields
      return {
        entityType := entity.name
        indexName := (given entity.index).getD defaultIndex
        idField, idType := entity.idType, fields }

/-- Registers the entity types of a declared schema on top of a registry. -/
def resolveOnto (defaultIndex : String) (registry : Registry) :
    List EntityDeclaration → Except SchemaError Registry
  | [] => .ok registry
  | entity :: rest => do
    let descriptor ← resolveEntity defaultIndex entity
    resolveOnto defaultIndex (registry.register descriptor) rest

/-- The registry of a declared schema. -/
def resolve (schema : SchemaDeclaration) (defaultIndex : String) : Except SchemaError Registry :=
  resolveOnto defaultIndex {} schema.entities

end SchemaDeclaration

end EntitySearch

import EntitySearch.Json.Record

/-!
# Work items

A work item is one instruction for the index: write the document of an entity, or remove it. The
fields of a document keep the order in which they were given.

* `WorkItem`: an instruction.
* `WorkItem.withField`: writes one more field.
* `WorkItem.toJson`, `WorkItem.ofJson?`: the stored form.
-/

namespace EntitySearch

/-- What an instruction does. -/
inductive WorkKind where
  /-- Writes the document, in the place of an older one. -/
  | add
  /-- Removes the document. -/
  | delete
deriving DecidableEq

/-- The stored name of an instruction. -/
def WorkKind.name : WorkKind → String
  | .add => "add"
  | .delete => "delete"

/-- Reads the stored name of an instruction. -/
def WorkKind.ofJson? (value : Json) : Option WorkKind :=
  match value.choice? with
  | some "add" => some .add
  | some "delete" => some .delete
  | _ => none

/-- An instruction for the document of one entity. -/
structure WorkItem where
  kind : WorkKind
  entityType : String
  id : String
  fields : Fields := []

namespace WorkItem

/-- Writes a document. -/
def add (entityType id : String) (fields : Fields := []) : WorkItem :=
  ⟨.add, entityType, id, fields⟩

/-- Removes a document. -/
def delete (entityType id : String) : WorkItem := ⟨.delete, entityType, id, []⟩

/-- Writes a field of the document; a document that is removed has none. -/
def withField (item : WorkItem) (name : String) (value : Json) : WorkItem :=
  match item.kind with
  | .add => { item with fields := Fields.insert item.fields name value }
  | .delete => item

/-- The stored form; a document without fields says nothing of them. -/
def toJson (item : WorkItem) : Json :=
  let fields := if item.fields.isEmpty then [] else [("fields", Json.object item.fields)]
  .object ([("kind", .string item.kind.name), ("entity_type", .string item.entityType),
    ("entity_id", .string item.id)] ++ fields)

/-- Reads the stored form. -/
def ofJson? (value : Json) : Option WorkItem := do
  let slots ← value.slots? ["kind", "entity_type", "entity_id", "fields"]
  match slots with
  | [kind, entityType, id, fields] =>
    return {
      kind := ← Json.required? WorkKind.ofJson? kind
      entityType := ← Json.required? Json.asString? entityType
      id := ← Json.required? Json.asString? id
      fields := ← Json.optional? Json.asFields? [] fields }
  | _ => none

end WorkItem

end EntitySearch

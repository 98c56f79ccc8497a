import EntitySearch.Json.Printer
import EntitySearch.Schema.Descriptor

/-!
# Bulk operations

The writes of a bulk request, in the order in which they are applied, and the body of the request:
one line for every action, followed by a line with the document if one is written.

* `Operation`: a write.
* `Operation.source`: the document as it is written, with its entity type.
* `bulkBody`: the body of a request.
-/

namespace EntitySearch

/-- A write to one document of an index. -/
inductive Operation where
  /-- Writes a document, in the place of an older one. -/
  | put (index entityType id : String) (fields : Fields)
  /-- Removes a document. -/
  | remove (index entityType id : String)

namespace Operation

/-- The index written to. -/
def index : Operation → String
  | .put index _ _ _ => index
  | .remove index _ _ => index

/-- The document written to. -/
def id : Operation → String
  | .put _ _ id _ => id
  | .remove _ _ id => id

/-- A document with its entity type in the reserved member. -/
def source (entityType : String) (fields : Fields) : Fields :=
  Fields.insert fields typeField (.string entityType)

/-- The action line of a write. -/
def action (name index id : String) : Json :=
  .object [(name, .object [("_index", .string index), ("_id", .string id)])]

/-- The lines of a write. -/
def lines : Operation → List Json
  | .put index entityType id fields =>
    [action "index" index id, .object (source entityType fields)]
  | .remove index _ id => [action "delete" index id]

end Operation

/-- The characters of a request, each line with its end. -/
def bulkChars (operations : List Operation) : List Char :=
  operations.flatMap fun operation => operation.lines.flatMap fun line => line.render ++ ['\n']

/-- The body of a request. -/
def bulkBody (operations : List Operation) : String := String.ofList (bulkChars operations)

end EntitySearch

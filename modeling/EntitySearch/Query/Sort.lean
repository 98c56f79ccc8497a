import EntitySearch.Json.Record

/-!
# Sort orders

A search is sorted by fields, the first of them deciding first.

* `SortKey`: a field and a direction.
* `SortSpec`: the keys of a search.
-/

namespace EntitySearch

/-- A field to sort by. -/
structure SortKey where
  field : String
  ascending : Bool
deriving DecidableEq

/-- The fields to sort by, the deciding one first. -/
abbrev SortSpec := List SortKey

/-- The stored form of a field to sort by. -/
def SortKey.toJson (key : SortKey) : Json :=
  .object [("field", .string key.field), ("ascending", .bool key.ascending)]

/-- Reads the stored form of a field to sort by. -/
def SortKey.ofJson? (value : Json) : Option SortKey := do
  let slots ← value.slots? ["field", "ascending"]
  match slots with
  | [field, ascending] =>
    return ⟨← Json.required? Json.asString? field, ← Json.required? Json.asBool? ascending⟩
  | _ => none

namespace SortSpec

/-- Sorts by one more field where all others are equal. -/
def thenBy (spec : SortSpec) (field : String) (ascending : Bool) : SortSpec :=
  spec ++ [⟨field, ascending⟩]

/-- The stored form. -/
def toJson (spec : SortSpec) : Json := .array (spec.map SortKey.toJson)

/-- Reads the stored form. -/
def ofJson? : Json → Option SortSpec := Json.listOf? SortKey.ofJson?

end SortSpec

end EntitySearch

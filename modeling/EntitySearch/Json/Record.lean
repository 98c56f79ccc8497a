import EntitySearch.Json.Basic

/-!
# Reading records from JSON values

A record is written as an object whose members are named after its fields, or as an array of its
fields' values in the order of their declaration. Members of other names are ignored; an array
has no more items than there are fields.

* `Json.slots?`: the values given for the fields of a record.
* `Json.required?`, `Json.optional?`: a field without and with a default.
* `Json.listOf?`, `Json.nullable?`: readers built from readers.
* `Json.choice?`: one of a few named alternatives.
-/

namespace EntitySearch

namespace Json

/-- The values given for the fields of a record; `none` in the list for a field left out. -/
def slots? (fields : List String) : Json → Option (List (Option Json))
  | .object members => some (fields.map (Fields.find? members))
  | .array items =>
    if items.length ≤ fields.length then
      some (items.map some ++ List.replicate (fields.length - items.length) none)
    else none
  | _ => none

/-- A field that must be given. -/
def required? {α : Type} (read : Json → Option α) (slot : Option Json) : Option α :=
  slot.bind read

/-- A field that has a default. -/
def optional? {α : Type} (read : Json → Option α) (default : α) : Option Json → Option α
  | none => some default
  | some value => read value

/-- A list of values. -/
def listOf? {α : Type} (read : Json → Option α) : Json → Option (List α)
  | .array items => items.mapM read
  | _ => none

/-- A value that may be `null`. -/
def nullable? {α : Type} (read : Json → Option α) : Json → Option (Option α)
  | .null => some none
  | value => (read value).map some

/-- The name of an alternative: a string, or an object that has it as its only member's name with
the value `null`. -/
def choice? : Json → Option String
  | .string name => some name
  | .object [(name, .null)] => some name
  | _ => none

end Json

end EntitySearch

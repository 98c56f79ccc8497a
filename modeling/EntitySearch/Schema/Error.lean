/-!
# What can be wrong with a schema

The causes for which a schema is refused or a name of it is not found, and their wording.
-/

namespace EntitySearch

/-- Why a schema is refused, or what it does not know. -/
inductive SchemaError where
  | unknownEntity (entity : String)
  | unknownField (entity field : String)
  | missingId (entity : String)
  | invalid (reason : String)
deriving DecidableEq

/-- The wording of an error. -/
def SchemaError.message : SchemaError → String
  | .unknownEntity entity => "entity type '" ++ entity ++ "' is not registered"
  | .unknownField entity field =>
    "entity type '" ++ entity ++ "' has no field named '" ++ field ++ "'"
  | .missingId entity => "entity type '" ++ entity ++ "' does not declare an identifier field"
  | .invalid reason => "invalid schema configuration: " ++ reason

/-- The name of a cause. -/
def SchemaError.kind : SchemaError → String
  | .unknownEntity _ => "Schema.UnknownEntity"
  | .unknownField _ _ => "Schema.UnknownField"
  | .missingId _ => "Schema.MissingId"
  | .invalid _ => "Schema.InvalidConfig"

/-- An entity type needs a name. -/
def SchemaError.emptyName : SchemaError := .invalid "entity with empty name"

/-- The fields of an entity type have different names. -/
def SchemaError.duplicateField (entity field : String) : SchemaError :=
  .invalid ("field '" ++ field ++ "' declared twice on '" ++ entity ++ "'")

end EntitySearch

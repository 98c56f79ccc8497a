import EntitySearch.Json.Basic

/-!
# Fields

A field of an entity type, and how it is laid out in an index. An analyzed field `f` is indexed
twice: as `f` for free text, and as its sub-field `f_raw` for exact values. A field that is not
analyzed is indexed once, for exact values.

* `FieldType`: the data types, and `FieldType.ofDeclared`, which reads them from declared names.
* `Field`: a field, with `Field.rawPath`, the path of its exact values.
* `Field.mapping`: the declaration of a field in an index.
-/

namespace EntitySearch

/-- The data types of fields. -/
inductive FieldType where
  | text
  | integer
  | long
  | double
  | boolean
  | date
deriving DecidableEq

namespace FieldType

/-- The last part of a name whose parts are separated by points and colons, in lower case. -/
def simpleName (declared : String) : String :=
  let last := declared.toList.reverse.takeWhile fun c => c ≠ '.' && c ≠ ':'
  String.ofList (last.reverse.map Char.toLower)

/-- The data type that a declared type name stands for, by its last part and in any case of ASCII
letters. Names that are not listed stand for text. -/
def ofDeclared (declared : String) : FieldType :=
  let name := simpleName declared
  if ["i8", "i16", "i32", "u8", "u16", "u32", "int", "integer", "short", "byte"].contains name then
    .integer
  else if ["i64", "u64", "i128", "u128", "isize", "usize", "long"].contains name then .long
  else if ["f32", "f64", "float", "double", "decimal"].contains name then .double
  else if ["bool", "boolean"].contains name then .boolean
  else if ["date", "datetime", "naivedate", "naivedatetime", "timestamp", "systemtime",
      "offsetdatetime", "primitivedatetime"].contains name then .date
  else .text

/-- The engine's name of a data type. Only text has two: for analyzed and for exact values. -/
def engineType : FieldType → (analyzed : Bool) → String
  | .text, true => "text"
  | .text, false => "keyword"
  | .integer, _ => "integer"
  | .long, _ => "long"
  | .double, _ => "double"
  | .boolean, _ => "boolean"
  | .date, _ => "date"

/-- Whether the values of a data type are numbers. -/
def isNumeric : FieldType → Bool
  | .integer | .long | .double => true
  | .text | .boolean | .date => false

end FieldType

/-- A field of an entity type. -/
structure Field where
  name : String
  dataType : FieldType
  analyzed : Bool
deriving DecidableEq

namespace Field

/-- The name of the sub-field for exact values. -/
def rawName (field : Field) : String := field.name ++ "_raw"

/-- The path of the exact values of a field. -/
def rawPath (field : Field) : String :=
  if field.analyzed then field.name ++ "." ++ field.rawName else field.name

/-- The declaration of a type in a mapping. -/
def typeDeclaration (engineType : String) : String × Json := ("type", .string engineType)

/-- The declaration of a field in a mapping. -/
def mapping (field : Field) : Json :=
  let exact := typeDeclaration (field.dataType.engineType false)
  if field.analyzed then
    .object [typeDeclaration (field.dataType.engineType true),
      ("fields", .object [(field.rawName, .object [exact])])]
  else .object [exact]

end Field

end EntitySearch

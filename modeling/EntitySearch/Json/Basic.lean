import EntitySearch.Number.Binary64

/-!
# JSON values

The values of documents, mappings and engine messages. The members of an object keep the order in
which they were first written.

* `Number`: an integer, or a double-precision number.
* `Json`: a value.
* `Fields`: the members of an object, with lookup and insertion by name.
-/

namespace EntitySearch

/-- A number: an integer as it was written, or a double-precision number. -/
inductive Number where
  | integer (z : Int)
  | real (x : Binary64)
deriving DecidableEq

namespace Number

/-- The first natural number that needs more than 64 bits. -/
def natBound : Nat := 18446744073709551616

/-- The first positive integer that needs more than 64 bits with its sign. -/
def intBound : Nat := 9223372036854775808

/-- The number as an unsigned 64-bit integer; only integers have that form. -/
def asNat? : Number → Option Nat
  | .integer z => if 0 ≤ z ∧ z < natBound then some z.toNat else none
  | .real _ => none

/-- The number as a signed 64-bit integer; only integers have that form. -/
def asInt? : Number → Option Int
  | .integer z => if -intBound ≤ z ∧ z < intBound then some z else none
  | .real _ => none

/-- The nearest double-precision number. -/
def asBinary64? : Number → Option Binary64
  | .integer z => Binary64.ofInt? z
  | .real x => some x

end Number

/-- A JSON value. -/
inductive Json where
  | null
  | bool (b : Bool)
  | number (n : Number)
  | string (s : String)
  | array (items : List Json)
  | object (members : List (String × Json))

/-- The members of an object, by name, in the order in which they were first written. -/
abbrev Fields := List (String × Json)

namespace Fields

/-- The value of a member. -/
def find? : Fields → String → Option Json
  | [], _ => none
  | (key, value) :: rest, name => if key = name then some value else find? rest name

/-- Whether there is a member of a name. -/
def contains : Fields → String → Bool
  | [], _ => false
  | (key, _) :: rest, name => key = name || contains rest name

/-- Writes a member: in its old place if there is one of its name, else at the end. -/
def insert : Fields → String → Json → Fields
  | [], name, value => [(name, value)]
  | (key, old) :: rest, name, value =>
    if key = name then (key, value) :: rest else (key, old) :: insert rest name value

/-- The names of the members. -/
def names (fields : Fields) : List String := fields.map (·.1)

end Fields

namespace Json

instance : Inhabited Json := ⟨.null⟩

/-- The integer of a natural number. -/
def nat (n : Nat) : Json := .number (.integer n)

/-- The integer of a value. -/
def int (z : Int) : Json := .number (.integer z)

/-- A list of strings. -/
def strings (texts : List String) : Json := .array (texts.map .string)

/-- A member of an object; other values have none. -/
def get? : Json → String → Option Json
  | .object members, name => Fields.find? members name
  | _, _ => none

/-- The text of a string. -/
def asString? : Json → Option String
  | .string s => some s
  | _ => none

/-- The truth value of a boolean. -/
def asBool? : Json → Option Bool
  | .bool b => some b
  | _ => none

/-- The items of an array. -/
def asArray? : Json → Option (List Json)
  | .array items => some items
  | _ => none

/-- The members of an object. -/
def asFields? : Json → Option Fields
  | .object members => some members
  | _ => none

/-- An unsigned 64-bit integer. -/
def asNat? : Json → Option Nat
  | .number n => n.asNat?
  | _ => none

/-- A signed 64-bit integer. -/
def asInt? : Json → Option Int
  | .number n => n.asInt?
  | _ => none

/-- The nearest double-precision number of a number. -/
def asBinary64? : Json → Option Binary64
  | .number n => n.asBinary64?
  | _ => none

end Json

end EntitySearch

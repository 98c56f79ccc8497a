import EntitySearch.Json.Printer
import EntitySearch.Schema.Descriptor

/-!
# Identifiers of entities

* `parseInt?`: the integers of 64 bits in decimal notation.
* `EntityId`: an identifier read back from the engine.
* `EntityId.decode`: reading it, as the entity type asks.
-/

namespace EntitySearch

/-- The value of a text of decimal digits, of which there is at least one. -/
def digitsValue? (digits : List Char) : Option Nat :=
  if digits.isEmpty || !digits.all Char.isDigit then none
  else some (digits.foldl (fun n digit => 10 * n + (digit.toNat - '0'.toNat)) 0)

/-- The integer of a text: an optional sign and decimal digits, whose value fits 64 bits. -/
def parseInt? (text : List Char) : Option Int :=
  let value : Option Int :=
    match text with
    | '-' :: digits => (digitsValue? digits).map fun n => -n
    | '+' :: digits => (digitsValue? digits).map fun n => n
    | digits => (digitsValue? digits).map fun n => n
  value.filter fun z => -Number.intBound ≤ z && z < Number.intBound

/-- An identifier. -/
inductive EntityId where
  | integer (n : Int)
  | text (s : String)
deriving DecidableEq

namespace EntityId

/-- Reads an identifier: as an integer if the entity type asks for one and the text is one. -/
def decode (raw : String) : IdType → EntityId
  | .string => .text raw
  | .numeric =>
    match parseInt? raw.toList with
    | some n => .integer n
    | none => .text raw

/-- The integer of an identifier. -/
def asInt? : EntityId → Option Int
  | .integer n => some n
  | .text _ => none

/-- The text of an identifier. -/
def toText : EntityId → String
  | .integer n => String.ofList (intChars n)
  | .text s => s

end EntityId

end EntitySearch

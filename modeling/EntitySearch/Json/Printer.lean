import EntitySearch.Json.Basic
import EntitySearch.Number.Decimal

/-!
# The compact text of a JSON value

No blanks, members in their order, and every character as itself save the two that need a
backslash and the control characters.

* `Json.render`: the text as characters.
* `Json.text`: the text as a string.
-/

namespace EntitySearch

/-- The digits of an integer, after a minus sign if it is negative. -/
def intChars (z : Int) : List Char :=
  if z < 0 then '-' :: Nat.toDigits 10 z.natAbs else Nat.toDigits 10 z.natAbs

/-- The text of a number. -/
def Number.render : Number → List Char
  | .integer z => intChars z
  | .real x => x.text

namespace Json

/-- A hexadecimal digit, in lower case. -/
def hexDigit (n : Nat) : Char := Nat.digitChar n

/-- How a character is written inside quotes. -/
def escape (c : Char) : List Char :=
  if c = '"' then ['\\', '"']
  else if c = '\\' then ['\\', '\\']
  else if c = '\n' then ['\\', 'n']
  else if c = '\r' then ['\\', 'r']
  else if c = '\t' then ['\\', 't']
  else if c = '\x08' then ['\\', 'b']
  else if c = '\x0c' then ['\\', 'f']
  else if c.toNat < 0x20 then
    ['\\', 'u', '0', '0', hexDigit (c.toNat / 16), hexDigit (c.toNat % 16)]
  else [c]

/-- A text between quotes. -/
def quoted (s : String) : List Char := '"' :: (s.toList.flatMap escape ++ ['"'])

mutual
/-- The compact text of a value. -/
def render : Json → List Char
  | .null => "null".toList
  | .bool true => "true".toList
  | .bool false => "false".toList
  | .number n => n.render
  | .string s => quoted s
  | .array items => '[' :: (renderItems items ++ [']'])
  | .object members => '{' :: (renderMembers members ++ ['}'])
termination_by structural value => value
/-- The items of an array, separated by commas. -/
def renderItems : List Json → List Char
  | [] => []
  | [item] => item.render
  | item :: rest => item.render ++ ',' :: renderItems rest
termination_by structural items => items
/-- The members of an object, separated by commas. -/
def renderMembers : List (String × Json) → List Char
  | [] => []
  | [(name, value)] => quoted name ++ ':' :: value.render
  | (name, value) :: rest => quoted name ++ ':' :: (value.render ++ ',' :: renderMembers rest)
termination_by structural members => members
end

/-- The compact text of a value. -/
def text (value : Json) : String := String.ofList value.render

/-- The text of a string as itself, and of any other value as it is written. -/
def plainText : Json → String
  | .string s => s
  | value => value.text

end Json

end EntitySearch

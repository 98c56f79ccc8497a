import EntitySearch.Json.Basic

/-!
# Reading JSON text

A recursive-descent reader on lists of characters. Every function returns the characters it did
not use. Of several members of one name the last value counts, in the place of the first.

* `Json.numberAt?`: a number, with a significand of at most 64 bits.
* `Json.stringAt?`: the rest of a string after its opening quote.
* `Json.valueAt?`: a value.
* `Json.parse?`: a text that holds one value and blanks.
-/

namespace EntitySearch

namespace Json

/-- The characters that may stand between the parts of a text. -/
def isSpace (c : Char) : Bool := c = ' ' || c = '\n' || c = '\t' || c = '\r'

/-- The characters after the blanks. -/
def skip (cs : List Char) : List Char := cs.dropWhile isSpace

/-- The value of a decimal digit. -/
def digitValue (c : Char) : Nat := c.toNat - '0'.toNat

/-- Appends digits to a significand as long as it fits 64 bits. The second number counts the
digits taken. -/
def gather (significand : Nat) : List Char → Nat × Nat
  | [] => (significand, 0)
  | d :: rest =>
    let longer := 10 * significand + digitValue d
    if longer < Number.natBound then
      let (result, taken) := gather longer rest
      (result, taken + 1)
    else (significand, 0)

/-- The number of a run of digits without fraction and exponent: an integer if it fits 64 bits,
signed below zero, and a double-precision number otherwise, as is a negative zero. -/
def wholeNumber? (negative : Bool) (digits : List Char) : Option Number :=
  let (significand, taken) := gather 0 digits
  let dropped := digits.length - taken
  if dropped = 0 && !negative then some (.integer significand)
  else if dropped = 0 && significand ≠ 0 && significand ≤ Number.intBound then
    some (.integer (-significand))
  else (Binary64.ofScaled? negative significand dropped).map .real

/-- The number of a run of digits with a fraction, an exponent or both. Digits of the whole part
beyond 64 bits count as zeros, and those of the fraction not at all. -/
def scaledNumber? (negative : Bool) (digits fraction : List Char) (exponent : Int) :
    Option Number :=
  let (whole, taken) := gather 0 digits
  let (significand, places) := gather whole fraction
  let shift : Int := (digits.length - taken : Nat) - (places : Nat)
  (Binary64.ofScaled? negative significand (shift + exponent)).map .real

/-- The natural number of a run of digits. -/
def natOf (digits : List Char) : Nat := digits.foldl (fun n d => 10 * n + digitValue d) 0

/-- The fraction at the head of the characters: no digits if there is no point. -/
def fractionAt? : List Char → Option (List Char × List Char)
  | '.' :: rest =>
    let digits := rest.takeWhile Char.isDigit
    if digits.isEmpty then none else some (digits, rest.dropWhile Char.isDigit)
  | cs => some ([], cs)

/-- An exponent without its letter. -/
def signedAt? (cs : List Char) : Option (Int × List Char) :=
  let (negative, rest) := match cs with
    | '+' :: rest => (false, rest)
    | '-' :: rest => (true, rest)
    | rest => (false, rest)
  let digits := rest.takeWhile Char.isDigit
  if digits.isEmpty then none
  else
    let size : Int := natOf digits
    some (if negative then -size else size, rest.dropWhile Char.isDigit)

/-- The exponent at the head of the characters, if there is one. -/
def exponentAt? : List Char → Option (Option Int × List Char)
  | 'e' :: rest => (signedAt? rest).map fun (e, rest) => (some e, rest)
  | 'E' :: rest => (signedAt? rest).map fun (e, rest) => (some e, rest)
  | cs => some (none, cs)

/-- A number. Its whole part has no leading zeros. -/
def numberAt? (cs : List Char) : Option (Number × List Char) := do
  let (negative, cs) := match cs with
    | '-' :: rest => (true, rest)
    | cs => (false, cs)
  let digits := cs.takeWhile Char.isDigit
  if digits.isEmpty || (digits.head? = some '0' && 1 < digits.length) then none
  else
    let (fraction, cs) ← fractionAt? (cs.dropWhile Char.isDigit)
    let (exponent, cs) ← exponentAt? cs
    let number ←
      if fraction.isEmpty && exponent.isNone then wholeNumber? negative digits
      else scaledNumber? negative digits fraction (exponent.getD 0)
    return (number, cs)

/-- The value of a hexadecimal digit. -/
def hexValue? (c : Char) : Option Nat :=
  if '0' ≤ c ∧ c ≤ '9' then some (c.toNat - '0'.toNat)
  else if 'a' ≤ c ∧ c ≤ 'f' then some (c.toNat - 'a'.toNat + 10)
  else if 'A' ≤ c ∧ c ≤ 'F' then some (c.toNat - 'A'.toNat + 10)
  else none

/-- Four hexadecimal digits. -/
def unitAt? : List Char → Option (Nat × List Char)
  | a :: b :: c :: d :: rest => do
    let a ← hexValue? a
    let b ← hexValue? b
    let c ← hexValue? c
    let d ← hexValue? d
    return (((a * 16 + b) * 16 + c) * 16 + d, rest)
  | _ => none

/-- The character of a numeric escape, after its `u`. A character beyond the first 65536 is
written as two escapes, and neither may stand alone. -/
def codePointAt? (cs : List Char) : Option (Char × List Char) := do
  let (first, rest) ← unitAt? cs
  if 0xd800 ≤ first ∧ first < 0xdc00 then
    match rest with
    | '\\' :: 'u' :: rest =>
      let (second, rest) ← unitAt? rest
      if 0xdc00 ≤ second ∧ second < 0xe000 then
        some (Char.ofNat (0x10000 + (first - 0xd800) * 0x400 + (second - 0xdc00)), rest)
      else none
    | _ => none
  else if 0xdc00 ≤ first ∧ first < 0xe000 then none
  else some (Char.ofNat first, rest)

/-- The character of a one-letter escape. -/
def shortEscape? : Char → Option Char
  | '"' => some '"'
  | '\\' => some '\\'
  | '/' => some '/'
  | 'b' => some '\x08'
  | 'f' => some '\x0c'
  | 'n' => some '\n'
  | 'r' => some '\r'
  | 't' => some '\t'
  | _ => none

/-- The rest of a string after its opening quote. `fuel` bounds its characters. -/
def charsAt? : Nat → List Char → Option (List Char × List Char)
  | 0, _ => none
  | _ + 1, '"' :: rest => some ([], rest)
  | fuel + 1, '\\' :: 'u' :: rest => do
    let (c, rest) ← codePointAt? rest
    let (chars, rest) ← charsAt? fuel rest
    return (c :: chars, rest)
  | fuel + 1, '\\' :: letter :: rest => do
    let c ← shortEscape? letter
    let (chars, rest) ← charsAt? fuel rest
    return (c :: chars, rest)
  | fuel + 1, c :: rest =>
    if c.toNat < 0x20 || c = '\\' then none
    else do
      let (chars, rest) ← charsAt? fuel rest
      return (c :: chars, rest)
  | _ + 1, [] => none

/-- The rest of a string after its opening quote. -/
def stringAt? (fuel : Nat) (cs : List Char) : Option (String × List Char) :=
  (charsAt? fuel cs).map fun (chars, rest) => (String.ofList chars, rest)

mutual
/-- A value after blanks. `fuel` bounds the calls and the characters of a string. -/
def valueAt? : Nat → List Char → Option (Json × List Char)
  | 0, _ => none
  | fuel + 1, cs =>
    match skip cs with
    | 'n' :: 'u' :: 'l' :: 'l' :: rest => some (.null, rest)
    | 't' :: 'r' :: 'u' :: 'e' :: rest => some (.bool true, rest)
    | 'f' :: 'a' :: 'l' :: 's' :: 'e' :: rest => some (.bool false, rest)
    | '"' :: rest => (stringAt? fuel rest).map fun (s, rest) => (.string s, rest)
    | '[' :: rest =>
      match skip rest with
      | ']' :: rest => some (.array [], rest)
      | _ => (itemsAt? fuel rest).map fun (items, rest) => (.array items, rest)
    | '{' :: rest =>
      match skip rest with
      | '}' :: rest => some (.object [], rest)
      | _ => (membersAt? fuel [] rest).map fun (members, rest) => (.object members, rest)
    | cs => (numberAt? cs).map fun (n, rest) => (.number n, rest)
/-- The items of an array, up to its closing bracket. -/
def itemsAt? : Nat → List Char → Option (List Json × List Char)
  | 0, _ => none
  | fuel + 1, cs => do
    let (item, rest) ← valueAt? fuel cs
    match skip rest with
    | ',' :: rest =>
      let (items, rest) ← itemsAt? fuel rest
      return (item :: items, rest)
    | ']' :: rest => some ([item], rest)
    | _ => none
/-- The members of an object that follow those of `found`, up to its closing brace. -/
def membersAt? : Nat → Fields → List Char → Option (Fields × List Char)
  | 0, _, _ => none
  | fuel + 1, found, cs =>
    match skip cs with
    | '"' :: rest => do
      let (name, rest) ← stringAt? fuel rest
      match skip rest with
      | ':' :: rest =>
        let (value, rest) ← valueAt? fuel rest
        let found := Fields.insert found name value
        match skip rest with
        | ',' :: rest => membersAt? fuel found rest
        | '}' :: rest => some (found, rest)
        | _ => none
      | _ => none
    | _ => none
end

/-- The value that a text holds, with nothing but blanks around it. -/
def parse? (s : String) : Option Json := do
  let cs := s.toList
  let (value, rest) ← valueAt? (2 * cs.length + 2) cs
  if (skip rest).isEmpty then some value else none

end Json

end EntitySearch

import EntitySearch.Web.Name
import EntitySearch.Web.Percent

/-!
# Hosts

The host in a web address is a name, or a number in one of two notations.

* `Host`: a host.
* `Host.text`: how it is written.
* `Host.ofText?`: a host of a special scheme, whose names end in a number only if they are one.
* `Host.ofOpaque?`: a host of any other scheme, whose names have no meaning.
-/

namespace EntitySearch

/-- A host. -/
inductive Host where
  | name (text : String)
  /-- A number of four bytes. -/
  | ipv4 (number : Nat)
  /-- Eight pieces of two bytes. -/
  | ipv6 (pieces : List Nat)
deriving DecidableEq

namespace Host

/-- A numeral in some base; no digits are zero. -/
def numeral? (base : Nat) (digits : List Char) : Option Nat :=
  digits.foldlM (fun number c => (Percent.digit? base c).map (base * number + ·)) 0

/-! ## Four bytes -/

/-- One of the numbers between dots, which may be written in base eight, ten or sixteen. -/
def dotted? (part : String) : Option Nat :=
  match part.toList with
  | [] => none
  | '0' :: 'x' :: digits | '0' :: 'X' :: digits => numeral? 16 digits
  | '0' :: d :: digits => numeral? 8 (d :: digits)
  | digits => numeral? 10 digits

/-- The parts of a name between its dots, without an empty one at its end. -/
def dottedParts (name : String) : List String :=
  let parts := name.splitOn "."
  if 1 < parts.length ∧ parts.getLast? = some "" then parts.dropLast else parts

/-- Whether a name has to be a number: its last part is one. -/
def endsInNumber (name : String) : Bool :=
  match (dottedParts name).getLast? with
  | some part => (!part.isEmpty && part.toList.all Char.isDigit) || (dotted? part).isSome
  | none => false

/-- The number of a name: its last part fills the bytes that the parts before it leave. -/
def ipv4? (name : String) : Option Nat := do
  let numbers ← (dottedParts name).mapM dotted?
  let last ← numbers.getLast?
  let firsts := numbers.dropLast
  let room := Nat.pow 256 (4 - firsts.length)
  if numbers.length ≤ 4 ∧ firsts.all (· ≤ 255) ∧ last < room then
    some (room * firsts.foldl (fun number byte => 256 * number + byte) 0 + last)
  else none

/-- The bytes of a number of four bytes. -/
def bytes (number : Nat) : List Nat :=
  [number / 16777216 % 256, number / 65536 % 256, number / 256 % 256, number % 256]

/-! ## Eight pieces -/

/-- A piece: one to four hexadecimal digits. -/
def piece? (text : String) : Option Nat :=
  if text.isEmpty ∨ 4 < text.length then none else numeral? 16 text.toList

/-- A byte in base ten without zeros in front of it. -/
def byte? (text : String) : Option Nat :=
  match text.toList with
  | [] => none
  | ['0'] => some 0
  | '0' :: _ => none
  | digits => (numeral? 10 digits).filter (· ≤ 255)

/-- The last two pieces, written as four bytes. -/
def lastPieces? (text : String) : Option (List Nat) :=
  match text.splitOn "." with
  | [a, b, c, d] => do
    let a ← byte? a
    let b ← byte? b
    let c ← byte? c
    let d ← byte? d
    return [256 * a + b, 256 * c + d]
  | _ => none

/-- Pieces between colons; the last two may be written as four bytes. -/
def pieces? : List String → Option (List Nat)
  | [] => some []
  | [last] => ((piece? last).map fun piece => [piece]) <|> lastPieces? last
  | first :: rest => do
    let piece ← piece? first
    let pieces ← pieces? rest
    return piece :: pieces

/-- The pieces of one side of a gap; there may be none. -/
def side? (text : String) : Option (List Nat) :=
  if text.isEmpty then some [] else pieces? (text.splitOn ":")

/-- The eight pieces of a number; two colons stand for a gap of zeros, at least one. -/
def ipv6? (text : String) : Option (List Nat) :=
  match text.splitOn "::" with
  | [all] => (pieces? (all.splitOn ":")).filter (·.length = 8)
  | [left, right] => do
    let left ← (side? left).filter fun _ => !left.contains '.'
    let right ← side? right
    let known := left.length + right.length
    if known ≤ 7 then some (left ++ List.replicate (8 - known) 0 ++ right) else none
  | _ => none

/-- A number of eight pieces in brackets; `none` inside if the brackets hold no number. -/
def bracketed? (text : String) : Option (Option Host) :=
  match text.toList with
  | '[' :: rest =>
    if rest.getLast? = some ']' then some ((ipv6? (String.ofList rest.dropLast)).map .ipv6)
    else some none
  | _ => none

/-! ## Names -/

/-- The characters that are not allowed in a host. -/
def forbidden (c : Char) : Bool :=
  [' ', '#', '/', ':', '<', '>', '?', '@', '[', '\\', ']', '^', '|', '\x00', '\t', '\n',
    '\r'].contains c

/-- The characters that are not allowed in a name that has a meaning. -/
def meaningless (c : Char) : Bool := forbidden c || c.toNat < 32 || c = '%' || c = '\x7f'

/-- A host of a special scheme. -/
def ofText? (text : String) : Option Host :=
  match bracketed? text with
  | some host => host
  | none => do
    let name ← HostName.ascii? (← Percent.text? (Percent.decode text.toList))
    if name.isEmpty ∨ name.any meaningless then none
    else if endsInNumber name then (ipv4? name).map .ipv4
    else some (.name name)

/-- A host of any other scheme. -/
def ofOpaque? (text : String) : Option Host :=
  match bracketed? text with
  | some host => host
  | none =>
    if text.any forbidden then none
    else some (.name (String.ofList (Percent.encode Percent.everywhere text.toList)))

/-! ## The written form -/

/-- How many zeros a list starts with. -/
def zeros (pieces : List Nat) : Nat := (pieces.takeWhile (· = 0)).length

/-- The place and the length of the first longest run of zeros. -/
def longestGap (pieces : List Nat) : Nat × Nat :=
  (List.range pieces.length).foldl
    (fun (place, length) start =>
      let run := zeros (pieces.drop start)
      if length < run then (start, run) else (place, length)) (0, 0)

/-- Pieces between colons. -/
def piecesText (pieces : List Nat) : String :=
  ":".intercalate (pieces.map fun piece => String.ofList (Nat.toDigits 16 piece))

/-- How a host is written. A gap is at least two zeros. -/
def text : Host → String
  | .name text => text
  | .ipv4 number => ".".intercalate ((bytes number).map toString)
  | .ipv6 pieces =>
    let (place, length) := longestGap pieces
    if 2 ≤ length then
      let behind := piecesText (pieces.drop (place + length))
      "[" ++ piecesText (pieces.take place) ++ "::" ++ behind ++ "]"
    else "[" ++ piecesText pieces ++ "]"

end Host

end EntitySearch

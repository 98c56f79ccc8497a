/-!
# Names in ASCII

A text is written in ASCII as its ASCII characters, a hyphen, and numbers that say which other
characters are put where: in the order of their code points, and each number counts the places that
are skipped on the way. The digits of the numbers have bases that follow the size of the numbers
before.

* `Punycode.encode`: how a text is written.
* `Punycode.decode?`: the text that was written.
-/

namespace EntitySearch.Punycode

/-- The digit of a value below 36: a letter, or from 26 on a numeral. -/
def digit (value : Nat) : Char := Char.ofNat (if value < 26 then 97 + value else 22 + value)

/-- The value of a digit. -/
def value? (c : Char) : Option Nat :=
  if 'a' ≤ c ∧ c ≤ 'z' then some (c.toNat - 97)
  else if '0' ≤ c ∧ c ≤ '9' then some (c.toNat - 22)
  else none

/-- A digit below this value is the last one of its number. It depends on the place of the digit, of
which the first one is 36 and each one 36 more than the one before. -/
def threshold (bias place : Nat) : Nat := max 1 (min 26 (place - bias))

/-- Halves the room of the digits until it is small. -/
def adaptFrom (bias delta : Nat) : Nat :=
  if 455 < delta then adaptFrom (bias + 36) (delta / 35) else bias + 36 * delta / (delta + 38)
termination_by delta
decreasing_by omega

/-- The bias after a number, which was that of the last one of `size` characters. -/
def adapt (delta size : Nat) (isFirst : Bool) : Nat :=
  let delta := if isFirst then delta / 700 else delta / 2
  adaptFrom 0 (delta + delta / size)

/-- Whether a character is written as itself. -/
def isBasic (c : Char) : Bool := c.toNat < 128

/-! ## Writing -/

theorem threshold_pos (bias place : Nat) : 1 ≤ threshold bias place := by
  unfold threshold; omega

/-- The digits of a number from a place on. -/
def digits (bias place number : Nat) : List Char :=
  let least := threshold bias place
  if number < least then [digit number]
  else
    digit (least + (number - least) % (36 - least)) ::
      digits bias (place + 36) ((number - least) / (36 - least))
termination_by number
decreasing_by
  have := threshold_pos bias place
  have := Nat.div_le_self (number - threshold bias place) (36 - threshold bias place)
  omega

/-- Where the writing of a text stands. -/
structure Progress where
  /-- The numbers so far. -/
  written : List Char := []
  /-- How many places were skipped since the last number. -/
  skipped : Nat := 0
  bias : Nat := 72
  /-- How many characters are written. -/
  size : Nat

/-- Goes past a character, which is written if its code point is `next`. -/
def pass (basics next : Nat) (progress : Progress) (c : Char) : Progress :=
  if c.toNat < next then { progress with skipped := progress.skipped + 1 }
  else if c.toNat = next then
    { written := progress.written ++ digits progress.bias 36 progress.skipped
      bias := adapt progress.skipped (progress.size + 1) (progress.size = basics)
      size := progress.size + 1 }
  else progress

/-- Writes the characters of a text whose code points are given in increasing order. Before them the
text was passed for all code points below `done`. -/
def encodeFrom (text : List Char) (basics done : Nat) (progress : Progress) :
    List Nat → Progress
  | [] => progress
  | next :: rest =>
    let skipped := progress.skipped + (next - done) * (progress.size + 1)
    let progress := text.foldl (pass basics next) { progress with skipped }
    encodeFrom text basics (next + 1) { progress with skipped := progress.skipped + 1 } rest

/-- Puts a number in its place among increasing ones, unless it is there. -/
def insertNumber (number : Nat) : List Nat → List Nat
  | [] => [number]
  | other :: rest =>
    if number < other then number :: other :: rest
    else if number = other then other :: rest
    else other :: insertNumber number rest

/-- How a text is written. -/
def encode (text : List Char) : List Char :=
  let basic := text.filter isBasic
  let others := (text.filter (!isBasic ·)).foldr (fun c => insertNumber c.toNat) []
  basic ++ (if basic.isEmpty then [] else ['-']) ++
    (encodeFrom text basic.length 128 { size := basic.length } others).written

/-! ## Reading -/

/-- Numbers are below this. -/
def bound : Nat := 4294967296

/-- Adds a number to a sum; its digits count `weight` times, from a place on. Gives also the text
behind it. -/
def readNumber? (bias : Nat) (place weight sum : Nat) : List Char → Option (Nat × List Char)
  | [] => none
  | c :: rest => do
    let value ← value? c
    let sum := sum + value * weight
    let least := threshold bias place
    if bound ≤ sum then none
    else if value < least then some (sum, rest)
    else
      let weight := weight * (36 - least)
      if bound ≤ weight then none else readNumber? bias (place + 36) weight sum rest

/-- Puts characters into a text as the numbers of at most `fuel` characters say. The last one was
`last`, and the next place is `place`. -/
def decodeFrom? (bias last place : Nat) (text : List Char) :
    Nat → List Char → Option (List Char)
  | _, [] => some text
  | 0, _ => none
  | fuel + 1, numbers => do
    let (sum, rest) ← readNumber? bias 36 1 place numbers
    let size := text.length + 1
    let next := last + sum / size
    if next.isValidChar then
      let text := text.insertIdx (sum % size) (Char.ofNat next)
      decodeFrom? (adapt (sum - place) size (place = 0)) next (sum % size + 1) text fuel rest
    else none

/-- The text that was written. -/
def decode? (written : List Char) : Option (List Char) :=
  let numbers := (written.reverse.takeWhile (· ≠ '-')).reverse
  let basic := written.take (written.length - numbers.length - 1)
  let numbers := if basic.isEmpty then written else numbers
  if basic.all isBasic then decodeFrom? 72 128 0 basic written.length numbers else none

end EntitySearch.Punycode

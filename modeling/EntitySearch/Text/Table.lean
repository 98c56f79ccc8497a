import EntitySearch.Text.Ranges

/-!
# Written tables

Large tables of characters are written as texts of words, in which code points are hexadecimal.

* `Table.ranges`: a set. Its words are code points and closed ranges of them, such as `30-39`.
* `Table.runs`: a mapping. In its words a sign of equality stands in front of what is assigned,
  which may be several numbers with plus signs between them. In `b2-b3=32` the second code point is
  assigned the number after that of the first; in `30:39=2` all are assigned the same.
* `Table.find?`: what is assigned to a code point.
-/

namespace EntitySearch.Text

/-- Neighbours in a mapping. -/
structure Run where
  first : Nat
  last : Nat
  /-- What is assigned to the first one. -/
  target : List Nat
  /-- Whether the last number grows along the run. -/
  growing : Bool

namespace Table

/-- The value of a hexadecimal numeral. -/
def number (digits : List Char) : Nat :=
  digits.foldl (fun value c => 16 * value + (c.toNat - if c.isDigit then 48 else 87)) 0

/-- The words of a table. -/
def words (table : String) : List (List Char) :=
  (((table.splitOn "\n").flatMap (·.splitOn " ")).filter (!·.isEmpty)).map (·.toList)

/-- The parts of a word in front of a character and behind it. -/
def partsAt (mark : Char) (word : List Char) : List Char × List Char :=
  (word.takeWhile (· ≠ mark), (word.dropWhile (· ≠ mark)).drop 1)

/-- The ends of a range, with a character between them; one code point is both ends. -/
def ends (mark : Char) (word : List Char) : Nat × Nat :=
  let (first, last) := partsAt mark word
  (number first, number (if last.isEmpty then first else last))

/-- Reads a set. -/
def ranges (table : String) : Ranges := (words table).map (ends '-')

/-- Reads numbers with plus signs between them. -/
def numbers (word : List Char) : List Nat :=
  ((String.ofList word).splitOn "+").map fun digits => number digits.toList

/-- Reads a word of a mapping. -/
def run (word : List Char) : Run :=
  let (source, target) := partsAt '=' word
  let growing := !source.contains ':'
  let (first, last) := ends (if growing then '-' else ':') source
  ⟨first, last, numbers target, growing⟩

/-- Reads a mapping. -/
def runs (table : String) : List Run := (words table).map run

/-- What a run assigns to the code point at a distance from its first one. -/
def assigned (run : Run) (distance : Nat) : List Nat :=
  match run.growing, run.target.getLast? with
  | true, some number => run.target.dropLast ++ [number + distance]
  | _, _ => run.target

/-- What is assigned to a code point. -/
def find? (runs : List Run) (c : Nat) : Option (List Nat) :=
  (runs.find? fun run => run.first ≤ c && c ≤ run.last).map fun run =>
    assigned run (c - run.first)

end Table

end EntitySearch.Text

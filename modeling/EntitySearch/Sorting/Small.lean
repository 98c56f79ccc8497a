/-!
# Sorting a few items

An order says of two items whether the second comes before the first; items that are equal keep
their places. A short list is sorted from its halves, whose ends are merged at the same time, from
the front and from the back. In an order that contradicts itself the two merges may not meet, and
then there is no result.

* `insertionSort`: one item after the other put in its place.
* `mergeEnds?`: two sorted halves in one list.
* `smallSort?`: a short list in its order.
-/

namespace EntitySearch.Sorting

variable {α : Type}

/-! ## Insertion -/

/-- Puts an item into a list sorted from last to first, in front of the items that it does not
come before. -/
def insertLast (before : α → α → Bool) (item : α) : List α → List α
  | [] => [item]
  | last :: rest =>
    if before item last then last :: insertLast before item rest else item :: last :: rest

/-- Puts items, one after the other, in their places behind and among sorted ones. -/
def insertAll (before : α → α → Bool) (sorted items : List α) : List α :=
  (items.foldl (fun sorted item => insertLast before item sorted) sorted.reverse).reverse

/-- The items of a list in an order, one after the other put in its place among those before. -/
def insertionSort (before : α → α → Bool) (items : List α) : List α := insertAll before [] items

/-! ## Both ends at once -/

/-- The first items of two sorted lists, and how many of them are from the left one. Of equal items
the left one is first. -/
def mergeFront (before : α → α → Bool) : Nat → List α → List α → List α × Nat
  | 0, _, _ => ([], 0)
  | count + 1, x :: xs, y :: ys =>
    if before y x then
      let (merged, fromLeft) := mergeFront before count (x :: xs) ys
      (y :: merged, fromLeft)
    else
      let (merged, fromLeft) := mergeFront before count xs (y :: ys)
      (x :: merged, fromLeft + 1)
  | _ + 1, _, _ => ([], 0)

/-- The last items, last one first, of two lists sorted from last to first, and how many of them
are from the left one. Of equal items the right one is last. -/
def mergeBack (before : α → α → Bool) : Nat → List α → List α → List α × Nat
  | 0, _, _ => ([], 0)
  | count + 1, x :: xs, y :: ys =>
    if before y x then
      let (merged, fromLeft) := mergeBack before count xs (y :: ys)
      (x :: merged, fromLeft + 1)
    else
      let (merged, fromLeft) := mergeBack before count (x :: xs) ys
      (y :: merged, fromLeft)
  | _ + 1, _, _ => ([], 0)

/-- Two sorted halves in one list; the right one may have one item more. There is no result if an
item would be taken from both ends. -/
def mergeEnds? (before : α → α → Bool) (left right : List α) : Option (List α) :=
  let count := left.length
  let (front, a) := mergeFront before count left right
  let (back, b) := mergeBack before count left.reverse right.reverse
  let rest := (left.drop a).take (count - a - b) ++
    (right.drop (count - a)).take (right.length - (count - a) - (count - b))
  if a + b ≤ count ∧ (count - a) + (count - b) ≤ right.length then
    some (front ++ rest ++ back.reverse)
  else none

/-! ## Short lists -/

/-- Four items in their order. -/
def sortFour (before : α → α → Bool) : List α → List α
  | [w, x, y, z] =>
    let (a, b) := if before x w then (x, w) else (w, x)
    let (c, d) := if before z y then (z, y) else (y, z)
    let swapsFirst := before c a
    let swapsLast := before d b
    let first := if swapsFirst then c else a
    let last := if swapsLast then b else d
    let left := if swapsFirst then a else if swapsLast then c else b
    let right := if swapsLast then d else if swapsFirst then b else c
    if before right left then [first, right, left, last] else [first, left, right, last]
  | items => items

/-- Eight items in their order. -/
def sortEight? (before : α → α → Bool) (items : List α) : Option (List α) :=
  mergeEnds? before (sortFour before (items.take 4)) (sortFour before (items.drop 4))

/-- One half of a list of some length in its order. The first items are sorted together, the others
are put among them. -/
def sortHalf? (before : α → α → Bool) (length : Nat) (half : List α) : Option (List α) :=
  if 16 ≤ length then
    (sortEight? before (half.take 8)).map fun sorted => insertAll before sorted (half.drop 8)
  else if 8 ≤ length then
    some (insertAll before (sortFour before (half.take 4)) (half.drop 4))
  else some (insertionSort before half)

/-- How many items are sorted as a short list. -/
def smallLimit : Nat := 32

/-- A short list in its order. -/
def smallSort? (before : α → α → Bool) (items : List α) : Option (List α) := do
  let middle := items.length / 2
  let left ← sortHalf? before items.length (items.take middle)
  let right ← sortHalf? before items.length (items.drop middle)
  mergeEnds? before left right

end EntitySearch.Sorting

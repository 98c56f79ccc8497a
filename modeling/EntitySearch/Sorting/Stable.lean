import EntitySearch.Sorting.Runs

/-!
# Sorting any list

A few items are put in their places one after the other. Longer lists are sorted in runs, and a
piece of a list that is far from any order is split at one of its items.

* `pivot?`: an item near the middle of the order.
* `quickSort?`: a list split again and again.
* `sort?`: a list in its order.
-/

namespace EntitySearch.Sorting

variable {α : Type}

/-! ## Splitting -/

/-- The item of three that is between the others. -/
def median (before : α → α → Bool) (a b c : α) : α :=
  let x := before a b
  if x == before a c then if before b c != x then c else b else a

/-- An item near the middle of the order of the `length` items from a place on: the median of three
items, each of them found in the same way in an eighth of the items. -/
def pivot? (before : α → α → Bool) (items : Array α) (place length : Nat) : Option α :=
  if length < 8 then items[place]?
  else do
    let part := length / 8
    let a ← pivot? before items place part
    let b ← pivot? before items (place + part * 4) part
    let c ← pivot? before items (place + part * 7) part
    return median before a b c
termination_by length

/-- Pieces of a list that are sorted at once. -/
def sortedPiece? (before : α → α → Bool) (items : List α) : Option (Run α) :=
  (smallSort? before (items.take smallLimit)).map fun sorted => ⟨sorted, true⟩

/-- A list in its order, in runs of which each is sorted at once. -/
def eagerSort? (before : α → α → Bool) : List α → Option (List α) :=
  runSort? before (sortedPiece? before) some

/-- A list in its order: split at one of its items, at most `splits` times in depth. The items are
not before `bound`; if the item to split at is equal to it, its equals are already in place. -/
def quickSort? (before : α → α → Bool) : Nat → Option α → List α → Option (List α)
  | 0, _, items =>
    if items.length ≤ smallLimit then smallSort? before items else eagerSort? before items
  | splits + 1, bound, items =>
    if items.length ≤ smallLimit then smallSort? before items
    else do
      let pivot ← pivot? before items.toArray 0 items.length
      let (less, others) := items.partition fun item => before item pivot
      if bound.any (fun bound => !before bound pivot) || less.isEmpty then
        let (equal, greater) := items.partition fun item => !before pivot item
        let sorted ← quickSort? before splits none greater
        return equal ++ sorted
      else
        let greater ← quickSort? before splits (some pivot) others
        let smaller ← quickSort? before splits bound less
        return smaller ++ greater

/-- A list in its order, split as often as a fair choice of items needs twice. -/
def fairSort? (before : α → α → Bool) (items : List α) : Option (List α) :=
  quickSort? before (2 * Nat.log2 (max items.length 1)) none items

/-! ## Any list -/

/-- Pieces of a list that are sorted later. -/
def loosePiece? (good : Nat) (items : List α) : Option (Run α) := some ⟨items.take good, false⟩

/-- A list in its order. There is no result only if the order contradicts itself. -/
def sort? (before : α → α → Bool) (items : List α) : Option (List α) :=
  let length := items.length
  if length ≤ 20 then some (insertionSort before items)
  else if length ≤ 2 * smallLimit then eagerSort? before items
  else runSort? before (loosePiece? (goodLength length)) (fairSort? before) items

end EntitySearch.Sorting

import EntitySearch.Sorting.Small

/-!
# Sorting in runs

A list is cut into runs, which are merged two by two. A run is a stretch of the list that is in
order already, or a piece that is sorted before it is merged; two pieces next to each other are
rather joined to one. The places at which the list is cut say in which order runs are merged: a cut
near a simple fraction of the list is merged late.

* `Run`: a part of a list.
* `runs?`: the runs of a list.
* `mergeRuns?`: all runs in one.
* `runSort?`: a list in its order.
-/

namespace EntitySearch.Sorting

variable {α : Type}

/-- A part of a list. -/
structure Run (α : Type) where
  items : List α
  isSorted : Bool

/-! ## Cutting -/

/-- How long a stretch in order must be at least to be a run. -/
def goodLength (length : Nat) : Nat :=
  if length ≤ 4096 then min (length - length / 2) 64
  else
    let root := Nat.pow 2 ((1 + Nat.log2 length) / 2)
    (root + length / root) / 2

/-- With how many items a list starts of which each two neighbours are related. -/
def stretch (related : α → α → Bool) : List α → Nat
  | [] => 0
  | [_] => 1
  | a :: b :: rest => if related a b then stretch related (b :: rest) + 1 else 1

/-- Whether a list starts with a step back. -/
def descends (before : α → α → Bool) : List α → Bool
  | a :: b :: _ => before b a
  | _ => false

/-- The first run of a list: a stretch in order, or in the reverse of a strict order, if it is long
enough, and else what `piece` takes. -/
def firstRun? (before : α → α → Bool) (good : Nat) (piece : List α → Option (Run α))
    (items : List α) : Option (Run α) :=
  let descending := descends before items
  let length := stretch (fun a b => before b a == descending) items
  if good ≤ length then
    let part := items.take length
    some ⟨if descending then part.reverse else part, true⟩
  else piece items

/-- The runs of a list, of which there are at most `fuel`. -/
def runs? (before : α → α → Bool) (good : Nat) (piece : List α → Option (Run α)) :
    Nat → List α → Option (List (Run α))
  | 0, _ => some []
  | fuel + 1, items =>
    if items.isEmpty then some []
    else do
      let run ← firstRun? before good piece items
      let others ← runs? before good piece fuel (items.drop run.items.length)
      return run :: others

/-! ## Merging -/

/-- Two sorted lists in one. The merge starts at the end of the shorter one's side. -/
def merge (before : α → α → Bool) (left right : List α) : List α :=
  if left.length ≤ right.length then left.merge right fun x y => !before y x
  else (right.reverse.merge left.reverse fun y x => !before y x).reverse

/-- The items of a run in order. -/
def Run.sorted? (whole : List α → Option (List α)) (run : Run α) : Option (List α) :=
  if run.isSorted then some run.items else whole run.items

/-- Two neighbouring runs in one; only one with a sorted part is sorted. -/
def Run.join? (before : α → α → Bool) (whole : List α → Option (List α)) (left right : Run α) :
    Option (Run α) :=
  if left.isSorted || right.isSorted then do
    let leftItems ← left.sorted? whole
    let rightItems ← right.sorted? whole
    return ⟨merge before leftItems rightItems, true⟩
  else some ⟨left.items ++ right.items, false⟩

/-- How deep the cut between two runs lies in a list of some length: how many leading bits their
middles have in common, as fractions of the list. -/
def depth (length start middle stop : Nat) : Nat :=
  let scale := (4611686018427387904 + length - 1) / length
  let bits := Nat.xor (scale * (start + middle)) (scale * (middle + stop))
  if bits = 0 then 64 else 63 - Nat.log2 bits

/-- Merges a run with the runs before it, the nearest one first, whose cuts are at least so deep. -/
def collapse? (join : Run α → Run α → Option (Run α)) (deep : Nat) :
    List (Run α × Nat) → Run α → Option (List (Run α × Nat) × Run α)
  | [], run => some ([], run)
  | (left, cut) :: waiting, run =>
    if deep ≤ cut then do
      let merged ← join left run
      collapse? join deep waiting merged
    else some ((left, cut) :: waiting, run)

/-- Merges a run that ends at some place of the list with runs that wait before it and with those
behind it. -/
def mergeRuns? (join : Run α → Run α → Option (Run α)) (length : Nat) :
    List (Run α × Nat) → Run α → Nat → List (Run α) → Option (Run α)
  | waiting, run, _, [] => (collapse? join 0 waiting run).map (·.2)
  | waiting, run, stop, next :: rest => do
    let nextStop := stop + next.items.length
    let cut := depth length (stop - run.items.length) stop nextStop
    let (waiting, merged) ← collapse? join cut waiting run
    mergeRuns? join length ((merged, cut) :: waiting) next nextStop rest

/-- A list in its order: what `piece` takes are its pieces, and `whole` sorts them. -/
def runSort? (before : α → α → Bool) (piece : List α → Option (Run α))
    (whole : List α → Option (List α)) (items : List α) : Option (List α) := do
  let parts ← runs? before (goodLength items.length) piece items.length items
  match parts with
  | [] => return []
  | first :: rest =>
    let join := Run.join? before whole
    let run ← mergeRuns? join items.length [] first first.items.length rest
    run.sorted? whole

end EntitySearch.Sorting

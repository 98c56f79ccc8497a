import EntitySearch.Proofs.Sorting.Permutation
import Mathlib.Logic.Function.Defs

/-!
# Sorting looks at items through their order only

Items may be exchanged for others without a difference to how they are sorted, if the order says the
same of them: to sort the values of a function is to sort its arguments by the order of their values.
So a list is sorted as the list of its own items is, on which alone the order has to make sense.

* `Natural`: whether a way of sorting is one on values and one on arguments.
* `mergeEnds?_map`, `runSort?_map`, `quickSort?_map`: the steps of sorting.
* `sort?_map`: any list.
-/

namespace EntitySearch.Sorting

open Function (onFun)

variable {α β : Type} (before : α → α → Bool) (f : β → α)

/-- Whether values are sorted as their arguments are. -/
def Natural (sort : List α → Option (List α)) (sort' : List β → Option (List β)) : Prop :=
  ∀ items, sort (items.map f) = (sort' items).map (List.map f)

/-! ## Insertion -/

theorem insertLast_map (item : β) (sorted : List β) :
    insertLast before (f item) (sorted.map f) = (insertLast (onFun before f) item sorted).map f := by
  induction sorted with
  | nil => rfl
  | cons last rest ih =>
    rw [List.map_cons, insertLast, insertLast, ih, apply_ite (List.map f)]
    rfl

theorem insertAll_map (sorted items : List β) :
    insertAll before (sorted.map f) (items.map f) =
      (insertAll (onFun before f) sorted items).map f := by
  have folded : ∀ found : List β,
      (items.map f).foldl (fun found item => insertLast before item found) (found.map f) =
        (items.foldl (fun found item => insertLast (onFun before f) item found) found).map f := by
    induction items with
    | nil => exact fun _ => rfl
    | cons item rest ih =>
      intro found
      rw [List.map_cons, List.foldl_cons, List.foldl_cons, insertLast_map, ih]
  rw [insertAll, ← List.map_reverse, folded, ← List.map_reverse]
  rfl

theorem insertionSort_map (items : List β) :
    insertionSort before (items.map f) = (insertionSort (onFun before f) items).map f :=
  insertAll_map before f [] items

/-! ## Both ends at once -/

theorem mergeFront_map (count : Nat) : ∀ left right : List β,
    mergeFront before count (left.map f) (right.map f) =
      (mergeFront (onFun before f) count left right).map (List.map f) id := by
  induction count with
  | zero => exact fun _ _ => rfl
  | succ count ih =>
    intro left right
    cases left with
    | nil => rfl
    | cons x xs =>
      cases right with
      | nil => rfl
      | cons y ys =>
        have behindRight := ih (x :: xs) ys
        have behindLeft := ih xs (y :: ys)
        rw [List.map_cons] at behindRight behindLeft
        rw [List.map_cons, List.map_cons, mergeFront, mergeFront, behindRight, behindLeft,
          apply_ite (Prod.map (List.map f) id)]
        rfl

theorem mergeBack_map (count : Nat) (left right : List β) :
    mergeBack before count (left.map f) (right.map f) =
      (mergeBack (onFun before f) count left right).map (List.map f) id := by
  rw [mergeBack_eq, mergeBack_eq, mergeFront_map]

theorem mergeEnds?_map (left right : List β) :
    mergeEnds? before (left.map f) (right.map f) =
      (mergeEnds? (onFun before f) left right).map (List.map f) := by
  unfold mergeEnds?
  simp only [List.length_map, ← List.map_reverse, mergeFront_map, mergeBack_map, Prod.map_fst,
    Prod.map_snd, id_eq, ← List.map_drop, ← List.map_take, ← List.map_append]
  split <;> rfl

/-! ## Short lists -/

theorem sortFour_map (items : List β) :
    sortFour before (items.map f) = (sortFour (onFun before f) items).map f := by
  match items with
  | [] | [_] | [_, _] | [_, _, _] | _ :: _ :: _ :: _ :: _ :: _ => rfl
  | [w, x, y, z] =>
    have pair : ∀ a b : β, (if before (f b) (f a) then (f b, f a) else (f a, f b)) =
        (if onFun before f b a then (b, a) else (a, b)).map f f :=
      fun a b => (apply_ite (Prod.map f f) (onFun before f b a = true) (b, a) (a, b)).symm
    simp only [List.map_cons, List.map_nil, sortFour, pair]
    generalize (if onFun before f x w then (x, w) else (w, x)) = first
    generalize (if onFun before f z y then (z, y) else (y, z)) = second
    obtain ⟨a, b⟩ := first
    obtain ⟨c, d⟩ := second
    simp only [Prod.map_fst, Prod.map_snd, onFun]
    cases before (f c) (f a) <;> cases before (f d) (f b) <;>
      simp only [Bool.false_eq_true, if_true, if_false] <;> split <;> rfl

theorem sortEight?_map : Natural f (sortEight? before) (sortEight? (onFun before f)) := by
  intro items
  rw [sortEight?, ← List.map_take, ← List.map_drop, sortFour_map, sortFour_map, mergeEnds?_map]
  rfl

theorem sortHalf?_map (length : Nat) :
    Natural f (sortHalf? before length) (sortHalf? (onFun before f) length) := by
  intro half
  unfold sortHalf?
  rw [← List.map_take, ← List.map_take, ← List.map_drop, ← List.map_drop, sortEight?_map,
    sortFour_map, insertAll_map, insertionSort_map]
  split
  · cases sortEight? (onFun before f) (half.take 8) with
    | none => rfl
    | some sorted => exact congrArg some (insertAll_map before f sorted (half.drop 8))
  · split <;> rfl

theorem smallSort?_map : Natural f (smallSort? before) (smallSort? (onFun before f)) := by
  intro items
  unfold smallSort?
  dsimp only
  rw [List.length_map, ← List.map_take, ← List.map_drop, sortHalf?_map, sortHalf?_map]
  cases sortHalf? (onFun before f) items.length (items.take (items.length / 2)) with
  | none => rfl
  | some left =>
    cases sortHalf? (onFun before f) items.length (items.drop (items.length / 2)) with
    | none => rfl
    | some right => exact mergeEnds?_map before f left right

/-! ## Runs -/

/-- A run of values. -/
def Run.map (run : Run β) : Run α := ⟨run.items.map f, run.isSorted⟩

/-- Whether pieces of lists of values are found as those of their arguments are. -/
def NaturalPieces (piece : List α → Option (Run α)) (piece' : List β → Option (Run β)) : Prop :=
  ∀ items, piece (items.map f) = (piece' items).map (Run.map f)

theorem stretch_map (related : α → α → Bool) (items : List β) :
    stretch related (items.map f) = stretch (onFun related f) items := by
  fun_induction stretch (onFun related f) items with
  | case1 => rfl
  | case2 => rfl
  | case3 a b rest next ih => rw [List.map_cons, List.map_cons, stretch, if_pos next, ← List.map_cons, ih]
  | case4 a b rest last => rw [List.map_cons, List.map_cons, stretch, if_neg last]

theorem descends_map (items : List β) :
    descends before (items.map f) = descends (onFun before f) items := by
  match items with
  | [] | [_] | _ :: _ :: _ => rfl

section Cutting

variable {piece : List α → Option (Run α)} {piece' : List β → Option (Run β)}
  (natural : NaturalPieces f piece piece') (good : Nat)

include natural

theorem firstRun?_map : NaturalPieces f (firstRun? before good piece)
    (firstRun? (onFun before f) good piece') := by
  intro items
  unfold firstRun?
  dsimp only
  rw [descends_map, stretch_map, natural]
  split
  · refine congrArg some (congrArg (Run.mk · true) ?_)
    rw [← List.map_take]
    split
    · rw [← List.map_reverse]
    · rfl
  · rfl

theorem runs?_map (fuel : Nat) : ∀ items : List β, runs? before good piece fuel (items.map f) =
    (runs? (onFun before f) good piece' fuel items).map (List.map (Run.map f)) := by
  induction fuel with
  | zero => exact fun _ => rfl
  | succ fuel ih =>
    intro items
    rw [runs?, runs?, List.isEmpty_map, firstRun?_map before f natural]
    split
    · rfl
    · cases firstRun? (onFun before f) good piece' items with
      | none => rfl
      | some run =>
        have rest := ih (items.drop run.items.length)
        rw [List.map_drop] at rest
        simp only [Option.map_some, Option.bind_eq_bind, Option.bind_some, Run.map, List.length_map,
          rest]
        cases runs? (onFun before f) good piece' fuel (items.drop run.items.length) <;> rfl

end Cutting

theorem merge_map (left right : List β) :
    merge before (left.map f) (right.map f) = (merge (onFun before f) left right).map f := by
  unfold merge
  rw [List.length_map, List.length_map]
  split
  · rw [List.map_merge (f := f) (s := fun x y => !before y x) fun _ _ _ _ => rfl]
  · rw [List.map_reverse, List.map_merge (f := f) (s := fun y x => !before y x) fun _ _ _ _ => rfl,
      List.map_reverse, List.map_reverse]

section Joining

variable {whole : List α → Option (List α)} {whole' : List β → Option (List β)}
  (natural : Natural f whole whole')

include natural

theorem Run.sorted?_map (run : Run β) :
    (run.map f).sorted? whole = (run.sorted? whole').map (List.map f) := by
  unfold Run.sorted? Run.map
  dsimp only
  rw [natural]
  split <;> rfl

theorem Run.join?_map (left right : Run β) : (left.map f).join? before whole (right.map f) =
    (left.join? (onFun before f) whole' right).map (Run.map f) := by
  unfold Run.join?
  rw [Run.sorted?_map f natural, Run.sorted?_map f natural]
  by_cases ordered : (left.isSorted || right.isSorted) = true
  · have ordered' : ((left.map f).isSorted || (right.map f).isSorted) = true := ordered
    rw [if_pos ordered, if_pos ordered']
    cases left.sorted? whole' with
    | none => rfl
    | some first =>
      cases right.sorted? whole' with
      | none => rfl
      | some last => exact congrArg (some ∘ (Run.mk · true)) (merge_map before f first last)
  · have ordered' : ¬((left.map f).isSorted || (right.map f).isSorted) = true := ordered
    rw [if_neg ordered, if_neg ordered']
    exact congrArg (some ∘ (Run.mk · false)) List.map_append.symm

end Joining

section Merging

variable {join : Run α → Run α → Option (Run α)} {join' : Run β → Run β → Option (Run β)}
  (natural : ∀ left right, join (left.map f) (right.map f) = (join' left right).map (Run.map f))

/-- Runs of values that wait. -/
def mapWaiting (waiting : List (Run β × Nat)) : List (Run α × Nat) :=
  waiting.map (Prod.map (Run.map f) id)

include natural

theorem collapse?_map (deep : Nat) (waiting : List (Run β × Nat)) : ∀ run : Run β,
    collapse? join deep (mapWaiting f waiting) (run.map f) =
      (collapse? join' deep waiting run).map (Prod.map (mapWaiting f) (Run.map f)) := by
  induction waiting with
  | nil => exact fun _ => rfl
  | cons next waiting ih =>
    intro run
    obtain ⟨left, cut⟩ := next
    rw [mapWaiting, List.map_cons, Prod.map_apply, id_eq, collapse?, collapse?, natural]
    split
    · cases join' left run with
      | none => rfl
      | some merged => exact ih merged
    · rfl

theorem mergeRuns?_map (length : Nat) (rest : List (Run β)) :
    ∀ (waiting : List (Run β × Nat)) (run : Run β) (stop : Nat),
      mergeRuns? join length (mapWaiting f waiting) (run.map f) stop (rest.map (Run.map f)) =
        (mergeRuns? join' length waiting run stop rest).map (Run.map f) := by
  induction rest with
  | nil =>
    intro waiting run stop
    rw [List.map_nil, mergeRuns?, mergeRuns?, collapse?_map f natural, Option.map_map, Option.map_map]
    rfl
  | cons next rest ih =>
    intro waiting run stop
    have size : ∀ run : Run β, (run.map f).items.length = run.items.length :=
      fun run => List.length_map _
    rw [List.map_cons, mergeRuns?, mergeRuns?, size, size, collapse?_map f natural]
    cases collapse? join' (depth length (stop - run.items.length) stop
      (stop + next.items.length)) waiting run with
    | none => rfl
    | some found => exact ih ((found.2, _) :: found.1) next _

end Merging

theorem runSort?_map {piece : List α → Option (Run α)} {piece' : List β → Option (Run β)}
    {whole : List α → Option (List α)} {whole' : List β → Option (List β)}
    (pieces : NaturalPieces f piece piece') (natural : Natural f whole whole') :
    Natural f (runSort? before piece whole) (runSort? (onFun before f) piece' whole') := by
  intro items
  unfold runSort?
  rw [List.length_map, runs?_map before f pieces]
  cases runs? (onFun before f) (goodLength items.length) piece' items.length items with
  | none => rfl
  | some parts =>
    cases parts with
    | nil => rfl
    | cons first rest =>
      have merged := mergeRuns?_map f (Run.join?_map before f natural) items.length rest [] first
        first.items.length
      have size : (first.map f).items.length = first.items.length := List.length_map _
      simp only [Option.map_some, Option.bind_eq_bind, Option.bind_some, List.map_cons, size]
      rw [show ([] : List (Run α × Nat)) = mapWaiting f [] from rfl, merged]
      cases mergeRuns? (Run.join? (onFun before f) whole') items.length [] first
          first.items.length rest with
      | none => rfl
      | some run => exact Run.sorted?_map f natural run

/-! ## Splitting -/

theorem sortedPiece?_map : NaturalPieces f (sortedPiece? before) (sortedPiece? (onFun before f)) := by
  intro items
  unfold sortedPiece?
  rw [← List.map_take, smallSort?_map, Option.map_map, Option.map_map]
  rfl

theorem eagerSort?_map : Natural f (eagerSort? before) (eagerSort? (onFun before f)) :=
  runSort?_map before f (sortedPiece?_map before f) fun _ => rfl

theorem median_map (a b c : β) :
    median before (f a) (f b) (f c) = f (median (onFun before f) a b c) := by
  unfold median
  dsimp only [onFun]
  split
  · split <;> rfl
  · rfl

theorem pivot?_map (items : List β) (place length : Nat) :
    pivot? before (items.map f).toArray place length =
      (pivot? (onFun before f) items.toArray place length).map f := by
  fun_induction pivot? (onFun before f) items.toArray place length with
  | case1 place length few =>
    rw [pivot?, if_pos few]
    simp
  | case2 place length many part iha ihb ihc =>
    rw [pivot?, if_neg many]
    dsimp only
    rw [iha, ihb, ihc]
    cases pivot? (onFun before f) items.toArray place part with
    | none => rfl
    | some a =>
      cases pivot? (onFun before f) items.toArray (place + part * 4) part with
      | none => rfl
      | some b =>
        cases pivot? (onFun before f) items.toArray (place + part * 7) part with
        | none => rfl
        | some c => exact congrArg some (median_map before f a b c)

theorem partition_map (p : α → Bool) (items : List β) :
    (items.map f).partition p = (items.partition (p ∘ f)).map (List.map f) (List.map f) := by
  rw [List.partition_eq_filter_filter, List.partition_eq_filter_filter, List.filter_map,
    List.filter_map]
  rfl

theorem quickSort?_map (splits : Nat) : ∀ bound : Option β,
    Natural f (quickSort? before splits (bound.map f)) (quickSort? (onFun before f) splits bound) := by
  induction splits with
  | zero =>
    intro bound items
    rw [quickSort?, quickSort?, List.length_map, smallSort?_map, eagerSort?_map]
    split <;> rfl
  | succ splits ih =>
    intro bound items
    rw [quickSort?, quickSort?, List.length_map, smallSort?_map, pivot?_map]
    split
    · rfl
    · cases pivot? (onFun before f) items.toArray 0 items.length with
      | none => rfl
      | some pivot =>
        have less := partition_map f (fun item => before item (f pivot)) items
        have equal := partition_map f (fun item => !before (f pivot) item) items
        have lowest : ((bound.map f).any (fun bound => !before bound (f pivot)) ||
            ((items.map f).partition fun item => before item (f pivot)).1.isEmpty) =
            (bound.any (fun bound => !onFun before f bound pivot) ||
              (items.partition fun item => onFun before f item pivot).1.isEmpty) := by
          rw [less]
          exact congrArg₂ or (by cases bound <;> rfl) List.isEmpty_map
        dsimp only [Option.map_some, Option.bind_eq_bind, Option.bind_some]
        by_cases alike : (bound.any (fun bound => !onFun before f bound pivot) ||
            (items.partition fun item => onFun before f item pivot).1.isEmpty) = true
        · rw [if_pos alike, if_pos (lowest.trans alike), equal]
          have behind := ih none (items.partition fun item => !onFun before f pivot item).2
          refine (congrArg (Option.bind · _) behind).trans ?_
          cases quickSort? (onFun before f) splits none
              (items.partition fun item => !onFun before f pivot item).2 with
          | none => rfl
          | some greater => exact congrArg some List.map_append.symm
        · rw [if_neg alike, if_neg (lowest ▸ alike), less]
          have behind := ih (some pivot) (items.partition fun item => onFun before f item pivot).2
          refine (congrArg (Option.bind · _) behind).trans ?_
          cases quickSort? (onFun before f) splits (some pivot)
              (items.partition fun item => onFun before f item pivot).2 with
          | none => rfl
          | some greater =>
            have inFront := ih bound (items.partition fun item => onFun before f item pivot).1
            refine (congrArg (Option.bind · _) inFront).trans ?_
            cases quickSort? (onFun before f) splits bound
                (items.partition fun item => onFun before f item pivot).1 with
            | none => rfl
            | some smaller => exact congrArg some List.map_append.symm

theorem fairSort?_map : Natural f (fairSort? before) (fairSort? (onFun before f)) := by
  intro items
  rw [fairSort?, List.length_map]
  exact quickSort?_map before f _ none items

/-! ## Any list -/

/-- **Values are sorted as their arguments are**, by the order of the values. -/
theorem sort?_map : Natural f (sort? before) (sort? (onFun before f)) := by
  intro items
  unfold sort?
  dsimp only
  rw [List.length_map]
  split
  · exact congrArg some (insertionSort_map before f items)
  · split
    · exact eagerSort?_map before f items
    · have pieces : NaturalPieces f (loosePiece? (goodLength items.length))
          (loosePiece? (goodLength items.length)) := fun items => by
        rw [loosePiece?, ← List.map_take]
        rfl
      exact runSort?_map before f pieces (fairSort?_map before f) items

end EntitySearch.Sorting

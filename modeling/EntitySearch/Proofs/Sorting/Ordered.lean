import EntitySearch.Proofs.Sorting.Merged
import EntitySearch.Proofs.Sorting.Renaming

/-!
# Sorting puts lists in order

If an order does not contradict itself, every list is sorted, however long it is and whatever order it
had: the merges of short lists meet, there is an item to split a long one at, and what comes out is in
order.

* `Sorts`: a way of sorting that always ends with a list in order.
* `smallSort?_sorts`: short lists.
* `Run.Orderly`, `runSort?_inOrder`: lists in runs.
* `quickSort?_inOrder`: lists split again and again.
* `sort?_sorts`: any list.
* `exists_sort?`: the main result, for which the order has to make sense of the items only.
-/

namespace EntitySearch.Sorting

variable {α : Type} {before : α → α → Bool}

/-- Whether sorting ends, with a list in order. -/
def Sorts (before : α → α → Bool) (sort : List α → Option (List α)) : Prop :=
  ∀ items, ∃ sorted, sort items = some sorted ∧ InOrder before sorted

section Consistent

variable (consistent : Consistent before)

include consistent

/-! ## Insertion -/

theorem insertLast_fromLast {item : α} {sorted : List α}
    (h : sorted.Pairwise fun x y => before x y = false) :
    (insertLast before item sorted).Pairwise fun x y => before x y = false := by
  induction sorted with
  | nil => exact List.pairwise_singleton _ item
  | cons last rest ih =>
    obtain ⟨behind, others⟩ := List.pairwise_cons.mp h
    rw [insertLast]
    split
    · next less =>
      refine .cons (fun x hx => ?_) (ih others)
      rcases List.mem_cons.mp ((insertLast_perm before item rest).mem_iff.mp hx) with rfl | hx
      · exact consistent.asymm less
      · exact behind x hx
    · next less =>
      have own : before item last = false := Bool.eq_false_iff.mpr less
      refine .cons (fun x hx => ?_) h
      rcases List.mem_cons.mp hx with rfl | hx
      · exact own
      · exact consistent.trans (behind x hx) own

theorem insertAll_inOrder {sorted : List α} (h : InOrder before sorted) (items : List α) :
    InOrder before (insertAll before sorted items) := by
  have folded : ∀ found : List α, (found.Pairwise fun x y => before x y = false) →
      (items.foldl (fun found item => insertLast before item found) found).Pairwise
        fun x y => before x y = false := by
    induction items with
    | nil => exact fun found hf => hf
    | cons item rest ih => exact fun found hf => ih _ (insertLast_fromLast consistent hf)
  exact List.pairwise_reverse.mpr (folded _ (List.pairwise_reverse.mpr h))

theorem insertionSort_inOrder (items : List α) : InOrder before (insertionSort before items) :=
  insertAll_inOrder consistent .nil items

/-! ## Short lists -/

theorem inOrder_pair (x y : α) :
    before (if before y x then (y, x) else (x, y)).2 (if before y x then (y, x) else (x, y)).1 =
      false := by
  split
  · next less => exact consistent.asymm less
  · next less => exact Bool.eq_false_iff.mpr less

/-- Four items: of two pairs in order the first and the last item are found, and then the others. -/
theorem sortFour_inOrder {items : List α} (four : items.length = 4) :
    InOrder before (sortFour before items) := by
  obtain ⟨w, x, y, z, rfl⟩ : ∃ w x y z, items = [w, x, y, z] := by
    match items, four with
    | [w, x, y, z], _ => exact ⟨w, x, y, z, rfl⟩
  have ab := inOrder_pair consistent w x
  have cd := inOrder_pair consistent y z
  unfold sortFour
  dsimp only
  generalize (if before x w then (x, w) else (w, x)) = first at ab ⊢
  generalize (if before z y then (z, y) else (y, z)) = second at cd ⊢
  obtain ⟨a, b⟩ := first
  obtain ⟨c, d⟩ := second
  dsimp only at ab cd ⊢
  have asymm := @consistent.asymm
  have trans := @consistent.trans
  -- the last comparison is of the two items between
  cases ca : before c a <;> cases db : before d b <;>
    simp only [Bool.false_eq_true, if_true, if_false] <;> split <;>
    simp only [InOrder, List.pairwise_cons, List.mem_cons, List.not_mem_nil, or_false] <;> grind

theorem sortEight?_inOrder {items : List α} (eight : items.length = 8) :
    ∃ sorted, sortEight? before items = some sorted ∧ InOrder before sorted := by
  have four : (items.take 4).length = 4 := by rw [List.length_take]; omega
  have four' : (items.drop 4).length = 4 := by rw [List.length_drop]; omega
  have low : (sortFour before (items.take 4)).length = 4 := (sortFour_length _ _).trans four
  have high : (sortFour before (items.drop 4)).length = 4 := (sortFour_length _ _).trans four'
  exact mergeEnds?_inOrder consistent (by omega) (by omega) (sortFour_inOrder consistent four)
    (sortFour_inOrder consistent four')

theorem sortHalf?_inOrder (length : Nat) (half : List α) (halved : length / 2 ≤ half.length) :
    ∃ sorted, sortHalf? before length half = some sorted ∧ InOrder before sorted := by
  unfold sortHalf?
  split
  · next long =>
    have eight : (half.take 8).length = 8 := by rw [List.length_take]; omega
    obtain ⟨front, hf, ordered⟩ := sortEight?_inOrder consistent eight
    rw [hf]
    exact ⟨_, rfl, insertAll_inOrder consistent ordered _⟩
  · split
    · next long =>
      have four : (half.take 4).length = 4 := by rw [List.length_take]; omega
      exact ⟨_, rfl, insertAll_inOrder consistent (sortFour_inOrder consistent four) _⟩
    · exact ⟨_, rfl, insertionSort_inOrder consistent half⟩

/-- **A short list**, from its halves. -/
theorem smallSort?_sorts : Sorts before (smallSort? before) := by
  intro items
  have halves : (items.take (items.length / 2)).length = items.length / 2 := by
    rw [List.length_take]
    omega
  have others : (items.drop (items.length / 2)).length = items.length - items.length / 2 :=
    List.length_drop
  obtain ⟨left, hl, ordered⟩ := sortHalf?_inOrder consistent _ _ (Nat.le_of_eq halves.symm)
  obtain ⟨right, hr, ordered'⟩ :=
    sortHalf?_inOrder consistent items.length (items.drop (items.length / 2)) (by omega)
  have size := (sortHalf?_perm (Nat.le_of_eq halves.symm) hl).length_eq.trans halves
  have size' := (sortHalf?_perm (by omega) hr).length_eq.trans others
  obtain ⟨merged, hm, done⟩ :=
    mergeEnds?_inOrder consistent (by omega) (by omega) ordered ordered'
  exact ⟨merged, Option.bind_eq_some_iff.mpr
    ⟨left, hl, Option.bind_eq_some_iff.mpr ⟨right, hr, hm⟩⟩, done⟩

end Consistent

/-! ## Runs -/

/-- A stretch of neighbours that are related, if the relation goes on from one to the next. -/
theorem stretch_pairwise (related : α → α → Bool)
    (trans : ∀ {x y z}, related x y = true → related y z = true → related x z = true)
    (items : List α) :
    (items.take (stretch related items)).Pairwise fun x y => related x y = true := by
  fun_induction stretch related items with
  | case1 => exact .nil
  | case2 a => exact List.pairwise_singleton _ a
  | case3 a b rest next ih =>
    obtain ⟨length, hl⟩ : ∃ length, stretch related (b :: rest) = length + 1 :=
      Nat.exists_eq_add_one.mpr (stretch_pos related (List.cons_ne_nil b rest))
    rw [List.take_succ_cons]
    refine .cons (fun x hx => ?_) ih
    rw [hl, List.take_succ_cons] at hx ih
    rcases List.mem_cons.mp hx with rfl | later
    · exact next
    · exact trans next ((List.pairwise_cons.mp ih).1 x later)
  | case4 a b rest => exact List.pairwise_singleton _ a

/-- Whether a run is what its mark says: in order, or to be sorted by a way that sorts. -/
structure Run.Orderly (before : α → α → Bool) (whole : List α → Option (List α)) (run : Run α) :
    Prop where
  sorted : run.isSorted = true → InOrder before run.items
  loose : run.isSorted = false → Sorts before whole

/-- Whether pieces of lists are found, and orderly. -/
def Pieces (before : α → α → Bool) (whole : List α → Option (List α))
    (piece : List α → Option (Run α)) : Prop :=
  ∀ items, ∃ run, piece items = some run ∧ run.Orderly before whole

section Consistent

variable (consistent : Consistent before) {whole : List α → Option (List α)}

include consistent

/-- A stretch in order, or in the reverse of a strict order and turned round. -/
theorem firstRun?_orderly (good : Nat) {piece : List α → Option (Run α)}
    (pieces : Pieces before whole piece) (items : List α) :
    ∃ run, firstRun? before good piece items = some run ∧ run.Orderly before whole := by
  unfold firstRun?
  dsimp only
  split
  · refine ⟨_, rfl, fun _ => ?_, nofun⟩
    dsimp only
    split
    · next descending =>
      rw [descending]
      have strict := stretch_pairwise (fun a b => before b a == true)
        (by
          intro x y z first second
          simp only [beq_iff_eq] at first second ⊢
          exact consistent.before_of_not_after second (consistent.asymm first)) items
      refine List.pairwise_reverse.mpr (strict.imp fun less => ?_)
      exact consistent.asymm (beq_iff_eq.mp less)
    · next ascending =>
      rw [Bool.eq_false_iff.mpr ascending]
      have weak := stretch_pairwise (fun a b => before b a == false)
        (by
          intro x y z first second
          simp only [beq_iff_eq] at first second ⊢
          exact consistent.trans first second) items
      exact weak.imp fun rest => beq_iff_eq.mp rest
  · exact pieces items

theorem runs?_orderly (good : Nat) {piece : List α → Option (Run α)}
    (pieces : Pieces before whole piece) (fuel : Nat) : ∀ items : List α,
    ∃ runs, runs? before good piece fuel items = some runs ∧
      ∀ run ∈ runs, run.Orderly before whole := by
  induction fuel with
  | zero => exact fun _ => ⟨[], rfl, nofun⟩
  | succ fuel ih =>
    intro items
    rw [runs?]
    split
    · exact ⟨[], rfl, nofun⟩
    · obtain ⟨run, hr, orderly⟩ := firstRun?_orderly consistent good pieces items
      obtain ⟨others, ho, rest⟩ := ih (items.drop run.items.length)
      exact ⟨run :: others, Option.bind_eq_some_iff.mpr
        ⟨run, hr, Option.bind_eq_some_iff.mpr ⟨others, ho, rfl⟩⟩,
        List.forall_mem_cons.mpr ⟨orderly, rest⟩⟩

omit consistent in
theorem Run.Orderly.sorted? {run : Run α} (orderly : run.Orderly before whole) :
    ∃ items, run.sorted? whole = some items ∧ InOrder before items := by
  unfold Run.sorted?
  split
  · next sorted => exact ⟨_, rfl, orderly.sorted sorted⟩
  · next loose => exact orderly.loose (Bool.eq_false_iff.mpr loose) run.items

theorem Run.Orderly.join? {left right : Run α} (hl : left.Orderly before whole)
    (hr : right.Orderly before whole) :
    ∃ joined, left.join? before whole right = some joined ∧ joined.Orderly before whole := by
  unfold Run.join?
  split
  · obtain ⟨first, hf, ordered⟩ := hl.sorted?
    obtain ⟨last, hl, ordered'⟩ := hr.sorted?
    exact ⟨_, Option.bind_eq_some_iff.mpr ⟨first, hf, Option.bind_eq_some_iff.mpr ⟨last, hl, rfl⟩⟩,
      fun _ => merge_inOrder consistent ordered ordered', nofun⟩
  · next loose =>
    rw [Bool.or_eq_true, not_or] at loose
    exact ⟨_, rfl, nofun, fun _ => hl.loose (Bool.eq_false_iff.mpr loose.1)⟩

end Consistent

section Merging

variable {join : Run α → Run α → Option (Run α)} {Good : Run α → Prop}
  (joins : ∀ {left right : Run α}, Good left → Good right →
    ∃ joined, join left right = some joined ∧ Good joined)

include joins

theorem exists_collapse? (deep : Nat) (waiting : List (Run α × Nat)) : ∀ {run : Run α},
    (∀ left ∈ waiting, Good left.1) → Good run →
      ∃ rest merged, collapse? join deep waiting run = some (rest, merged) ∧
        (∀ left ∈ rest, Good left.1) ∧ Good merged := by
  induction waiting with
  | nil => exact fun _ good => ⟨[], _, rfl, nofun, good⟩
  | cons next waiting ih =>
    intro run all good
    obtain ⟨nearest, others⟩ := List.forall_mem_cons.mp all
    rw [collapse?]
    split
    · obtain ⟨both, hb, goodBoth⟩ := joins nearest good
      obtain ⟨rest, merged, hm, goods⟩ := ih others goodBoth
      exact ⟨rest, merged, Option.bind_eq_some_iff.mpr ⟨both, hb, hm⟩, goods⟩
    · exact ⟨_, _, rfl, all, good⟩

theorem exists_mergeRuns? (length : Nat) (rest : List (Run α)) :
    ∀ (waiting : List (Run α × Nat)) (run : Run α) (stop : Nat),
      (∀ left ∈ waiting, Good left.1) → Good run → (∀ other ∈ rest, Good other) →
        ∃ merged, mergeRuns? join length waiting run stop rest = some merged ∧ Good merged := by
  induction rest with
  | nil =>
    intro waiting run stop all good _
    obtain ⟨left, merged, hm, -, goodMerged⟩ := exists_collapse? joins 0 waiting all good
    exact ⟨merged, Option.map_eq_some_iff.mpr ⟨(left, merged), hm, rfl⟩, goodMerged⟩
  | cons next rest ih =>
    intro waiting run stop all good goods
    obtain ⟨goodNext, goodRest⟩ := List.forall_mem_cons.mp goods
    obtain ⟨left, merged, hm, goodLeft, goodMerged⟩ := exists_collapse? joins
      (depth length (stop - run.items.length) stop (stop + next.items.length)) waiting all good
    obtain ⟨whole, hw, goodWhole⟩ :=
      ih ((merged, _) :: left) next (stop + next.items.length)
        (List.forall_mem_cons.mpr ⟨goodMerged, goodLeft⟩) goodNext goodRest
    exact ⟨whole, Option.bind_eq_some_iff.mpr ⟨(left, merged), hm, hw⟩, goodWhole⟩

end Merging

section Consistent

variable (consistent : Consistent before) {whole : List α → Option (List α)}

include consistent

/-- **A list in runs.** -/
theorem runSort?_inOrder {piece : List α → Option (Run α)} (pieces : Pieces before whole piece) :
    Sorts before (runSort? before piece whole) := by
  intro items
  obtain ⟨parts, hp, orderly⟩ :=
    runs?_orderly consistent (goodLength items.length) pieces items.length items
  cases parts with
  | nil => exact ⟨[], Option.bind_eq_some_iff.mpr ⟨[], hp, rfl⟩, .nil⟩
  | cons first rest =>
    obtain ⟨own, others⟩ := List.forall_mem_cons.mp orderly
    obtain ⟨run, hr, orderlyRun⟩ := exists_mergeRuns? (Run.Orderly.join? consistent) items.length
      rest [] first first.items.length nofun own others
    obtain ⟨sorted, hs, ordered⟩ := orderlyRun.sorted?
    exact ⟨sorted, Option.bind_eq_some_iff.mpr
      ⟨first :: rest, hp, Option.bind_eq_some_iff.mpr ⟨run, hr, hs⟩⟩, ordered⟩

theorem eagerSort?_sorts : Sorts before (eagerSort? before) := by
  refine runSort?_inOrder consistent fun items => ?_
  obtain ⟨sorted, hs, ordered⟩ := smallSort?_sorts consistent (items.take smallLimit)
  exact ⟨⟨sorted, true⟩, Option.map_eq_some_iff.mpr ⟨sorted, hs, rfl⟩, fun _ => ordered, nofun⟩

end Consistent

/-! ## Splitting -/

theorem exists_pivot? (before : α → α → Bool) (items : Array α) (place length : Nat) (pos : 0 < length)
    (fits : place + length ≤ items.size) : ∃ pivot, pivot? before items place length = some pivot := by
  fun_induction pivot? before items place length with
  | case1 place length few => exact ⟨_, Array.getElem?_eq_getElem (by omega)⟩
  | case2 place length many part iha ihb ihc =>
    obtain ⟨a, ha⟩ := iha (by omega) (by omega)
    obtain ⟨b, hb⟩ := ihb (by omega) (by omega)
    obtain ⟨c, hc⟩ := ihc (by omega) (by omega)
    exact ⟨median before a b c, Option.bind_eq_some_iff.mpr ⟨a, ha, Option.bind_eq_some_iff.mpr
      ⟨b, hb, Option.bind_eq_some_iff.mpr ⟨c, hc, rfl⟩⟩⟩⟩

section Splitting

variable (consistent : Consistent before) (pivot : α) {items : List α}

include consistent

theorem inOrder_append {first second : List α} (hf : InOrder before first)
    (hs : InOrder before second) (low : ∀ x ∈ first, before pivot x = false)
    (high : ∀ y ∈ second, before y pivot = false) : InOrder before (first ++ second) :=
  List.pairwise_append.mpr
    ⟨hf, hs, fun x hx y hy => consistent.trans (low x hx) (high y hy)⟩

/-- Nothing is before an item to split at that is not after the bound, or if nothing before it was
found. -/
theorem not_before_lowest {bound : Option α} (behind : ∀ b ∈ bound, ∀ x ∈ items, before x b = false)
    (lowest : (bound.any (fun b => !before b pivot) ||
      (items.filter fun x => before x pivot).isEmpty) = true) :
    ∀ x ∈ items, before x pivot = false := by
  intro x hx
  rcases Bool.or_eq_true_iff.mp lowest with bounded | none
  · cases bound with
    | none => cases bounded
    | some b => exact consistent.trans (by simpa using bounded) (behind b rfl x hx)
  · exact Bool.eq_false_iff.mpr (List.filter_eq_nil_iff.mp (List.isEmpty_iff.mp none) x hx)

theorem inOrder_equal_append (low : ∀ x ∈ items, before x pivot = false) {greater : List α}
    (ordered : InOrder before greater)
    (perm : greater.Perm (items.filter (not ∘ fun x => !before pivot x))) :
    InOrder before ((items.filter fun x => !before pivot x) ++ greater) := by
  have equal : ∀ x ∈ items.filter fun x => !before pivot x, before pivot x = false :=
    fun x hx => by simpa using (List.mem_filter.mp hx).2
  have alike : InOrder before (items.filter fun x => !before pivot x) :=
    List.pairwise_of_forall_mem_list fun x hx y hy =>
      consistent.trans (equal x hx) (low y (List.mem_filter.mp hy).1)
  exact inOrder_append consistent pivot alike ordered equal fun y hy =>
    low y (List.mem_filter.mp (perm.mem_iff.mp hy)).1

theorem inOrder_less_append {smaller greater : List α} (hs : InOrder before smaller)
    (hg : InOrder before greater) (perm : smaller.Perm (items.filter fun x => before x pivot))
    (perm' : greater.Perm (items.filter (not ∘ fun x => before x pivot))) :
    InOrder before (smaller ++ greater) := by
  refine inOrder_append consistent pivot hs hg (fun x hx => ?_) fun y hy => ?_
  · exact consistent.asymm (List.mem_filter.mp (perm.mem_iff.mp hx)).2
  · simpa using (List.mem_filter.mp (perm'.mem_iff.mp hy)).2

end Splitting

/-- **A list split again and again**, whose items are not before the bound. -/
theorem quickSort?_inOrder (consistent : Consistent before) (splits : Nat) :
    ∀ (bound : Option α) (items : List α),
      (∀ b ∈ bound, ∀ x ∈ items, before x b = false) →
      ∃ sorted, quickSort? before splits bound items = some sorted ∧ InOrder before sorted := by
  induction splits with
  | zero =>
    intro bound items _
    rw [quickSort?]
    split
    · exact smallSort?_sorts consistent items
    · exact eagerSort?_sorts consistent items
  | succ splits ih =>
    intro bound items behind
    rw [quickSort?]
    split
    · exact smallSort?_sorts consistent items
    · next long =>
      obtain ⟨pivot, hp⟩ := exists_pivot? before items.toArray 0 items.length (by omega)
        (by rw [List.size_toArray]; omega)
      rw [hp, Option.bind_eq_bind, Option.bind_some]
      simp only [List.partition_eq_filter_filter]
      split
      · next lowest =>
        have low := not_before_lowest consistent pivot behind lowest
        have unbounded : ∀ b ∈ (none : Option α),
            ∀ x ∈ items.filter (not ∘ fun x => !before pivot x), before x b = false := by
          intro b hb
          cases hb
        obtain ⟨greater, hg, ordered⟩ := ih none _ unbounded
        exact ⟨_, Option.bind_eq_some_iff.mpr ⟨greater, hg, rfl⟩,
          inOrder_equal_append consistent pivot low ordered (quickSort?_perm before splits none hg)⟩
      · have behind' : ∀ b ∈ some pivot, ∀ x ∈ items.filter (not ∘ fun x => before x pivot),
            before x b = false := by
          intro b hb x hx
          cases hb
          simpa using (List.mem_filter.mp hx).2
        obtain ⟨greater, hg, ordered⟩ := ih (some pivot) _ behind'
        obtain ⟨smaller, hs, ordered'⟩ := ih bound (items.filter fun x => before x pivot)
          fun b hb x hx => behind b hb x (List.mem_filter.mp hx).1
        exact ⟨_, Option.bind_eq_some_iff.mpr
          ⟨greater, hg, Option.bind_eq_some_iff.mpr ⟨smaller, hs, rfl⟩⟩,
          inOrder_less_append consistent pivot ordered' ordered
            (quickSort?_perm before splits bound hs) (quickSort?_perm before splits (some pivot) hg)⟩

/-! ## Any list -/

/-- **Sorting puts every list in order**, if the order does not contradict itself. -/
theorem sort?_sorts (consistent : Consistent before) : Sorts before (sort? before) := by
  intro items
  unfold sort?
  dsimp only
  split
  · exact ⟨_, rfl, insertionSort_inOrder consistent items⟩
  · split
    · exact eagerSort?_sorts consistent items
    · have fair : Sorts before (fairSort? before) := fun items =>
        quickSort?_inOrder consistent _ none items nofun
      exact runSort?_inOrder consistent
        (fun items => ⟨⟨items.take _, false⟩, rfl, nofun, fun _ => fair⟩) items

/-- **Sorting ends, with the same items in order**, if the order does not contradict itself on them. -/
theorem exists_sort? (before : α → α → Bool) {items : List α}
    (consistent : Consistent fun a b : { x // x ∈ items } => before a b) :
    ∃ sorted, sort? before items = some sorted ∧ sorted.Perm items ∧ InOrder before sorted := by
  obtain ⟨own, ho, ordered⟩ := sort?_sorts consistent items.attach
  have same := sort?_map before Subtype.val items.attach
  rw [List.attach_map_subtype_val] at same
  have sorts : sort? before items = some (own.map Subtype.val) :=
    same.trans (congrArg (Option.map (List.map Subtype.val)) ho)
  exact ⟨_, sorts, sort?_rearranges before sorts, List.pairwise_map.mpr ordered⟩

end EntitySearch.Sorting

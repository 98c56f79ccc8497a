import EntitySearch.Sorting.Stable
import Mathlib.Data.List.Count
import Mathlib.Tactic.Common

/-!
# Sorting loses nothing

Whatever an order says of two items, and also if it contradicts itself, a list that is sorted has the
items that it had before, each as often: every step takes items from the ends of what is left, exchanges
neighbours, or splits a list in two.

* `Rearranges`: what is sorted has the items that it had before.
* `mergeEnds?_perm`: two halves that are merged from both ends, if the merges meet.
* `smallSort?_rearranges`, `runSort?_perm`, `quickSort?_perm`: the ways of sorting.
* `sort?_rearranges`: any list.
-/

namespace EntitySearch.Sorting

variable {α : Type} {before : α → α → Bool}

/-- Whether what is sorted has the items that it had before, each as often. -/
def Rearranges (sort : List α → Option (List α)) : Prop :=
  ∀ {items sorted : List α}, sort items = some sorted → sorted.Perm items

/-! ## Insertion -/

theorem insertLast_perm (before : α → α → Bool) (item : α) (sorted : List α) :
    (insertLast before item sorted).Perm (item :: sorted) := by
  induction sorted with
  | nil => exact .refl _
  | cons last rest ih =>
    rw [insertLast]
    split
    · exact (ih.cons last).trans (.swap item last rest)
    · exact .refl _

theorem insertAll_perm (before : α → α → Bool) (sorted items : List α) :
    (insertAll before sorted items).Perm (sorted ++ items) := by
  have folded : ∀ found : List α,
      (items.foldl (fun found item => insertLast before item found) found).Perm (found ++ items) := by
    induction items with
    | nil =>
      intro found
      rw [List.append_nil]
      exact .refl _
    | cons item rest ih =>
      intro found
      have inserted := (insertLast_perm before item found).append_right rest
      exact ((ih _).trans inserted).trans List.perm_middle.symm
  exact ((List.reverse_perm _).trans (folded _)).trans ((List.reverse_perm sorted).append_right items)

theorem insertionSort_perm (before : α → α → Bool) (items : List α) :
    (insertionSort before items).Perm items := insertAll_perm before [] items

/-! ## Both ends at once -/

/-- The first items of a merge are the first items of both lists, of which there are enough. -/
theorem mergeFront_perm (before : α → α → Bool) (count : Nat) :
    ∀ left right : List α, count ≤ left.length → count ≤ right.length →
      (mergeFront before count left right).2 ≤ count ∧
        (mergeFront before count left right).1.Perm
          (left.take (mergeFront before count left right).2 ++
            right.take (count - (mergeFront before count left right).2)) := by
  induction count with
  | zero => exact fun _ _ _ _ => ⟨Nat.le_refl 0, .refl _⟩
  | succ count ih =>
    intro left right hl hr
    obtain ⟨x, xs, rfl⟩ := List.exists_cons_of_length_pos (Nat.lt_of_lt_of_le count.succ_pos hl)
    obtain ⟨y, ys, rfl⟩ := List.exists_cons_of_length_pos (Nat.lt_of_lt_of_le count.succ_pos hr)
    rw [List.length_cons] at hl hr
    rw [mergeFront]
    split
    · obtain ⟨fewer, perm⟩ := ih (x :: xs) ys (by rw [List.length_cons]; omega) (by omega)
      dsimp only
      have enough : count + 1 - (mergeFront before count (x :: xs) ys).2 =
          count - (mergeFront before count (x :: xs) ys).2 + 1 := by omega
      rw [enough, List.take_succ_cons]
      exact ⟨by omega, (perm.cons y).trans List.perm_middle.symm⟩
    · obtain ⟨fewer, perm⟩ := ih xs (y :: ys) (by omega) (by rw [List.length_cons]; omega)
      dsimp only
      rw [Nat.add_sub_add_right, List.take_succ_cons]
      exact ⟨by omega, perm.cons x⟩

/-- A merge from the back is one from the front, in which equal items are taken from the other side. -/
theorem mergeBack_eq (before : α → α → Bool) (count : Nat) : ∀ left right : List α,
    mergeBack before count left right = mergeFront (fun y x => !before y x) count left right := by
  induction count with
  | zero => exact fun _ _ => rfl
  | succ count ih =>
    intro left right
    cases left with
    | nil => rfl
    | cons x xs =>
      cases right with
      | nil => rfl
      | cons y ys =>
        rw [mergeBack, mergeFront, ih, ih]
        cases before y x <;> rfl

theorem parts_eq (items : List α) {first last : Nat} (fits : first + last ≤ items.length) :
    items = items.take first ++ (items.drop first).take (items.length - first - last) ++
      (items.reverse.take last).reverse := by
  have back : (items.reverse.take last).reverse = items.drop (items.length - last) := by
    rw [List.take_reverse, List.reverse_reverse]
  have rest : items.drop (items.length - last) =
      (items.drop first).drop (items.length - first - last) := by
    rw [List.drop_drop]
    congr 1
    omega
  rw [back, rest, List.append_assoc, List.take_append_drop, List.take_append_drop]

/-- **Two halves merged from both ends**, if no item is taken from both. -/
theorem mergeEnds?_perm {left right merged : List α} (shorter : left.length ≤ right.length)
    (h : mergeEnds? before left right = some merged) : merged.Perm (left ++ right) := by
  have front := mergeFront_perm before left.length left right (Nat.le_refl _) shorter
  have back := mergeFront_perm (fun y x => !before y x) left.length left.reverse right.reverse
    (List.length_reverse ▸ Nat.le_refl _) (by simpa using shorter)
  rw [← mergeBack_eq] at back
  unfold mergeEnds? at h
  dsimp only at h
  generalize mergeFront before left.length left right = ends at h front
  generalize mergeBack before left.length left.reverse right.reverse = ends' at h back
  obtain ⟨front, a⟩ := ends
  obtain ⟨back, b⟩ := ends'
  dsimp only at h front back
  split at h
  · next meet =>
    cases h
    have hl := parts_eq left meet.1
    have hr := parts_eq right meet.2
    classical
    rw [List.perm_iff_count]
    intro item
    have first := front.2.count_eq item
    have last := back.2.count_eq item
    have inLeft := congrArg (List.count item) hl
    have inRight := congrArg (List.count item) hr
    simp only [List.count_append, List.count_reverse] at first last inLeft inRight ⊢
    omega
  · cases h

/-! ## Short lists -/

theorem count_four [BEq α] (item w x y z : α) :
    [w, x, y, z].count item =
      [w].count item + [x].count item + [y].count item + [z].count item := by
  simp only [List.count_cons, List.count_nil]
  omega

/-- Four items are exchanged in pairs, whatever the five comparisons say. -/
theorem sortFour_perm (before : α → α → Bool) (items : List α) :
    (sortFour before items).Perm items := by
  unfold sortFour
  split
  · next w x y z =>
    classical
    rw [List.perm_iff_count]
    intro item
    have four := count_four item
    rw [four w x y z]
    cases before x w <;> cases before z y <;> simp only [Bool.false_eq_true, if_true, if_false] <;>
      split_ifs <;> rw [four] <;> omega
  · exact .refl _

theorem sortFour_length (before : α → α → Bool) (items : List α) :
    (sortFour before items).length = items.length := (sortFour_perm before items).length_eq

theorem sortEight?_perm {items sorted : List α} (many : 8 ≤ items.length)
    (h : sortEight? before items = some sorted) : sorted.Perm items := by
  have shorter : (sortFour before (items.take 4)).length ≤
      (sortFour before (items.drop 4)).length := by
    rw [sortFour_length, sortFour_length, List.length_take, List.length_drop]
    omega
  have both := (sortFour_perm before (items.take 4)).append (sortFour_perm before (items.drop 4))
  rw [List.take_append_drop] at both
  exact (mergeEnds?_perm shorter h).trans both

theorem insertAll_take_perm {sorted half : List α} {count : Nat}
    (front : sorted.Perm (half.take count)) :
    (insertAll before sorted (half.drop count)).Perm half := by
  have both := front.append_right (half.drop count)
  rw [List.take_append_drop] at both
  exact (insertAll_perm before sorted _).trans both

theorem sortHalf?_perm {length : Nat} {half sorted : List α} (halved : length / 2 ≤ half.length)
    (h : sortHalf? before length half = some sorted) : sorted.Perm half := by
  unfold sortHalf? at h
  split at h
  · next long =>
    obtain ⟨front, hf, rfl⟩ := Option.map_eq_some_iff.mp h
    have many : 8 ≤ (half.take 8).length := by
      rw [List.length_take]
      omega
    exact insertAll_take_perm (sortEight?_perm many hf)
  · split at h
    · cases h
      exact insertAll_take_perm (sortFour_perm before _)
    · cases h
      exact insertionSort_perm before half

/-- **A short list.** -/
theorem smallSort?_rearranges (before : α → α → Bool) : Rearranges (smallSort? before) := by
  intro items sorted h
  obtain ⟨left, hl, h⟩ := Option.bind_eq_some_iff.mp h
  obtain ⟨right, hr, h⟩ := Option.bind_eq_some_iff.mp h
  have halves : (items.take (items.length / 2)).length = items.length / 2 := by
    rw [List.length_take]
    omega
  have others : (items.drop (items.length / 2)).length = items.length - items.length / 2 :=
    List.length_drop
  have first := sortHalf?_perm (Nat.le_of_eq halves.symm) hl
  have last := sortHalf?_perm (by rw [others]; omega) hr
  have shorter : left.length ≤ right.length := by
    rw [first.length_eq, last.length_eq, halves, others]
    omega
  have both := first.append last
  rw [List.take_append_drop] at both
  exact (mergeEnds?_perm shorter h).trans both

/-! ## Runs -/

theorem stretch_le_length (related : α → α → Bool) (items : List α) :
    stretch related items ≤ items.length := by
  fun_induction stretch related items with
  | case1 => exact Nat.le_refl 0
  | case2 => exact Nat.le_refl 1
  | case3 a b rest _ ih => exact Nat.succ_le_succ ih
  | case4 a b rest _ => exact Nat.succ_le_succ (Nat.zero_le _)

theorem stretch_pos (related : α → α → Bool) {items : List α} (h : items ≠ []) :
    0 < stretch related items := by
  fun_cases stretch related items with
  | case1 => exact absurd rfl h
  | case2 => exact Nat.one_pos
  | case3 a b rest => exact Nat.succ_pos _
  | case4 a b rest => exact Nat.one_pos

/-- Whether a run has the first items of a list, and at least one of them. -/
structure Run.Starts (run : Run α) (items : List α) : Prop where
  fits : run.items.length ≤ items.length
  holds : run.items ≠ []
  perm : run.items.Perm (items.take run.items.length)

/-- Whether pieces of lists are runs of their first items, if the lists are not empty and runs in
order are to be longer than one item. -/
def Cuts (good : Nat) (piece : List α → Option (Run α)) : Prop :=
  ∀ {items : List α} {run : Run α}, items ≠ [] → 1 < good → piece items = some run → run.Starts items

theorem firstRun?_starts {good : Nat} {piece : List α → Option (Run α)} (cuts : Cuts good piece)
    {items : List α} (some_items : items ≠ []) {run : Run α}
    (h : firstRun? before good piece items = some run) : run.Starts items := by
  unfold firstRun? at h
  dsimp only at h
  have pos := stretch_pos (fun a b => before b a == descends before items) some_items
  have fits := stretch_le_length (fun a b => before b a == descends before items) items
  generalize stretch (fun a b => before b a == descends before items) items = length at h pos fits
  split at h
  · cases h
    have taken : (items.take length).length = length := by
      rw [List.length_take]
      omega
    have part : (if descends before items then (items.take length).reverse
        else items.take length).Perm (items.take length) := by
      split
      · exact List.reverse_perm _
      · exact .refl _
    have size := part.length_eq.trans taken
    refine ⟨by rw [size]; exact fits, ?_, by rw [size]; exact part⟩
    exact List.ne_nil_of_length_pos (by rw [size]; exact pos)
  · next long => exact cuts some_items (by omega) h

/-- **The runs of a list**, one after the other, are the list. -/
theorem runs?_perm {good : Nat} {piece : List α → Option (Run α)} (cuts : Cuts good piece)
    (fuel : Nat) : ∀ {items : List α} {runs : List (Run α)}, items.length ≤ fuel →
      runs? before good piece fuel items = some runs →
        (runs.flatMap (·.items)).Perm items := by
  induction fuel with
  | zero =>
    intro items runs few h
    cases h
    rw [List.eq_nil_of_length_eq_zero (Nat.le_zero.mp few)]
    exact .refl _
  | succ fuel ih =>
    intro items runs few h
    rw [runs?] at h
    split at h
    · next none =>
      cases h
      rw [List.isEmpty_iff.mp none]
      exact .refl _
    · next some_items =>
      obtain ⟨run, hr, h⟩ := Option.bind_eq_some_iff.mp h
      obtain ⟨others, ho, h⟩ := Option.bind_eq_some_iff.mp h
      cases h
      have starts := firstRun?_starts cuts (fun none => some_items (by rw [none]; rfl)) hr
      have pos := List.length_pos_iff.mpr starts.holds
      have rest := ih (by rw [List.length_drop]; omega) ho
      have both := starts.perm.append rest
      rw [List.take_append_drop] at both
      exact both

theorem merge_perm (before : α → α → Bool) (left right : List α) :
    (merge before left right).Perm (left ++ right) := by
  unfold merge
  split
  · exact List.merge_perm_append _
  · have back := (List.reverse_perm (right.reverse.merge left.reverse fun y x => !before y x)).trans
      (List.merge_perm_append _)
    rw [← List.reverse_append] at back
    exact back.trans (List.reverse_perm _)

theorem Run.sorted?_perm {whole : List α → Option (List α)} (rearranges : Rearranges whole)
    {run : Run α} {sorted : List α} (h : run.sorted? whole = some sorted) :
    sorted.Perm run.items := by
  unfold sorted? at h
  split at h
  · cases h
    exact .refl _
  · exact rearranges h

theorem Run.join?_perm {whole : List α → Option (List α)} (rearranges : Rearranges whole)
    {left right joined : Run α} (h : left.join? before whole right = some joined) :
    joined.items.Perm (left.items ++ right.items) := by
  unfold join? at h
  split at h
  · obtain ⟨first, hf, h⟩ := Option.bind_eq_some_iff.mp h
    obtain ⟨last, hl, h⟩ := Option.bind_eq_some_iff.mp h
    cases h
    exact (merge_perm before first last).trans
      ((Run.sorted?_perm rearranges hf).append (Run.sorted?_perm rearranges hl))
  · cases h
    exact .refl _

/-- The items of runs that wait, the nearest run first. -/
def waitingItems (waiting : List (Run α × Nat)) : List α := waiting.flatMap (·.1.items)

theorem collapse?_zero {join : Run α → Run α → Option (Run α)} (waiting : List (Run α × Nat)) :
    ∀ {run : Run α} {left : List (Run α × Nat)} {merged : Run α},
      collapse? join 0 waiting run = some (left, merged) → left = [] := by
  induction waiting with
  | nil =>
    intro run left merged h
    cases h
    rfl
  | cons next waiting ih =>
    intro run left merged h
    rw [collapse?, if_pos (Nat.zero_le _)] at h
    obtain ⟨both, -, h⟩ := Option.bind_eq_some_iff.mp h
    exact ih h

section Merging

variable {join : Run α → Run α → Option (Run α)}
  (joins : ∀ {left right joined : Run α}, join left right = some joined →
    joined.items.Perm (left.items ++ right.items))

include joins

theorem collapse?_perm (deep : Nat) (waiting : List (Run α × Nat)) :
    ∀ {run : Run α} {left : List (Run α × Nat)} {merged : Run α},
      collapse? join deep waiting run = some (left, merged) →
        (waitingItems left ++ merged.items).Perm (waitingItems waiting ++ run.items) := by
  induction waiting with
  | nil =>
    intro run left merged h
    cases h
    exact .refl _
  | cons next waiting ih =>
    intro run left merged h
    rw [collapse?] at h
    split at h
    · obtain ⟨both, hb, h⟩ := Option.bind_eq_some_iff.mp h
      have nearest := (joins hb).append_left (waitingItems waiting)
      refine (ih h).trans (nearest.trans ?_)
      rw [← List.append_assoc]
      exact List.perm_append_comm.append_right run.items
    · cases h
      exact .refl _

theorem mergeRuns?_perm (length : Nat) (rest : List (Run α)) :
    ∀ {waiting : List (Run α × Nat)} {run merged : Run α} {stop : Nat},
      mergeRuns? join length waiting run stop rest = some merged →
        merged.items.Perm (waitingItems waiting ++ run.items ++ rest.flatMap (·.items)) := by
  induction rest with
  | nil =>
    intro waiting run merged stop h
    obtain ⟨⟨left, all⟩, hc, rfl⟩ := Option.map_eq_some_iff.mp h
    have collapsed := collapse?_perm joins 0 waiting hc
    rw [collapse?_zero waiting hc] at collapsed
    rw [List.flatMap_nil, List.append_nil]
    exact collapsed
  | cons next rest ih =>
    intro waiting run merged stop h
    rw [mergeRuns?] at h
    obtain ⟨⟨left, collapsed⟩, hc, h⟩ := Option.bind_eq_some_iff.mp h
    have before := collapse?_perm joins _ waiting hc
    refine (ih h).trans ?_
    rw [List.flatMap_cons, ← List.append_assoc]
    refine (List.Perm.append_right _ ?_).append_right _
    exact List.perm_append_comm.trans before

end Merging

/-- **A list in runs.** -/
theorem runSort?_perm {piece : List α → Option (Run α)} {whole : List α → Option (List α)}
    (rearranges : Rearranges whole) {items sorted : List α}
    (cuts : Cuts (goodLength items.length) piece)
    (h : runSort? before piece whole items = some sorted) : sorted.Perm items := by
  obtain ⟨parts, hp, h⟩ := Option.bind_eq_some_iff.mp h
  have all := runs?_perm cuts items.length (Nat.le_refl _) hp
  cases parts with
  | nil =>
    cases h
    exact all
  | cons first rest =>
    obtain ⟨run, hr, h⟩ := Option.bind_eq_some_iff.mp h
    have merged := mergeRuns?_perm (Run.join?_perm rearranges) _ rest hr
    exact (Run.sorted?_perm rearranges h).trans (merged.trans all)

/-! ## Pieces -/

theorem sortedPiece?_cuts (before : α → α → Bool) (good : Nat) :
    Cuts good (sortedPiece? before) := by
  intro items run some_items _ h
  obtain ⟨sorted, hs, rfl⟩ := Option.map_eq_some_iff.mp h
  have perm := smallSort?_rearranges before hs
  have size := perm.length_eq
  rw [List.length_take] at size
  have pos := List.length_pos_iff.mpr some_items
  have limit : smallLimit = 32 := rfl
  refine ⟨by dsimp only; omega, List.length_pos_iff.mp (by dsimp only; omega), ?_⟩
  have same : items.take sorted.length = items.take smallLimit := by
    rw [size, ← List.take_eq_take_min]
  dsimp only
  rw [same]
  exact perm

theorem loosePiece?_cuts (good : Nat) : Cuts good (loosePiece? (α := α) good) := by
  intro items run some_items long h
  cases h
  have pos := List.length_pos_iff.mpr some_items
  refine ⟨?_, List.length_pos_iff.mp ?_, ?_⟩
  · exact List.length_take_le' good items
  · dsimp only
    rw [List.length_take]
    omega
  · dsimp only
    rw [List.length_take, ← List.take_eq_take_min]

/-! ## Splitting -/

theorem eagerSort?_rearranges (before : α → α → Bool) : Rearranges (eagerSort? before) := by
  have settled : Rearranges (some : List α → Option (List α)) := by
    intro items sorted h
    cases h
    exact .refl _
  intro items sorted h
  exact runSort?_perm settled (sortedPiece?_cuts before _) h

theorem partition_perm (p : α → Bool) (items : List α) :
    ((items.partition p).1 ++ (items.partition p).2).Perm items := by
  rw [List.partition_eq_filter_filter]
  exact List.filter_append_perm p items

theorem quickSort?_perm (before : α → α → Bool) (splits : Nat) :
    ∀ bound : Option α, Rearranges (quickSort? before splits bound) := by
  induction splits with
  | zero =>
    intro bound items sorted h
    rw [quickSort?] at h
    split at h
    · exact smallSort?_rearranges before h
    · exact eagerSort?_rearranges before h
  | succ splits ih =>
    intro bound items sorted h
    rw [quickSort?] at h
    split at h
    · exact smallSort?_rearranges before h
    · obtain ⟨pivot, -, h⟩ := Option.bind_eq_some_iff.mp h
      dsimp only at h
      split at h
      · obtain ⟨greater, hg, h⟩ := Option.bind_eq_some_iff.mp h
        cases h
        exact ((ih _ hg).append_left _).trans (partition_perm _ items)
      · obtain ⟨greater, hg, h⟩ := Option.bind_eq_some_iff.mp h
        obtain ⟨smaller, hs, h⟩ := Option.bind_eq_some_iff.mp h
        cases h
        exact ((ih _ hs).append (ih _ hg)).trans (partition_perm _ items)

/-! ## Any list -/

/-- **Sorting loses nothing and adds nothing**, whatever the order says. -/
theorem sort?_rearranges (before : α → α → Bool) : Rearranges (sort? before) := by
  intro items sorted h
  unfold sort? at h
  dsimp only at h
  split at h
  · cases h
    exact insertionSort_perm before items
  · split at h
    · exact eagerSort?_rearranges before h
    · have fair : Rearranges (fairSort? before) := fun h => quickSort?_perm before _ _ h
      exact runSort?_perm fair (loosePiece?_cuts _) h

end EntitySearch.Sorting

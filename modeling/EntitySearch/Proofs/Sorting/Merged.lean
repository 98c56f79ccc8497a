import EntitySearch.Proofs.Sorting.Permutation

/-!
# Merging lists in order

In an order that does not contradict itself, two lists in order are merged to one in order. This is
also so if they are merged from both ends at once: the items taken from the front, and those left by
the merge from the back, are the first items of both lists up to a place at which the order cuts
them; of two such places one is behind the other, so the two merges meet.

* `Consistent`, `InOrder`: an order without contradictions, and lists in it.
* `Merges`: what a merge from either end has to respect.
* `Cut`: a place up to which items are taken before all others; `mergeFront_cut`, `Cut.le`.
* `mergeEnds?_inOrder`: two halves merged from both ends.
* `merge_inOrder`: two runs.
-/

namespace EntitySearch.Sorting

variable {α : Type} {before : α → α → Bool}

/-! ## Orders -/

/-- Whether an order does not contradict itself: of two items not both come before the other, and
an item not before a second one, which is not before a third one, is not before the third one. -/
structure Consistent (before : α → α → Bool) : Prop where
  asymm {x y : α} : before x y = true → before y x = false
  trans {x y z : α} : before y x = false → before z y = false → before z x = false

/-- Whether no item of a list comes before one in front of it. -/
def InOrder (before : α → α → Bool) (items : List α) : Prop :=
  items.Pairwise fun x y => before y x = false

namespace Consistent

variable (consistent : Consistent before)

include consistent

theorem before_of_not_after {x y z : α} (less : before x y = true) (rest : before z y = false) :
    before x z = true := by
  by_contra after
  exact Bool.noConfusion (less.symm.trans (consistent.trans rest (Bool.eq_false_iff.mpr after)))

theorem before_of_not_before {x y z : α} (rest : before y x = false) (less : before y z = true) :
    before x z = true := by
  by_contra after
  exact Bool.noConfusion (less.symm.trans (consistent.trans (Bool.eq_false_iff.mpr after) rest))

end Consistent

/-! ## Taking items from two lists -/

/-- What a merge of two lists has to respect: `takes y x` says that the right item `y` is taken
before the left one `x`, and `Fits x y` that `x` may stand in front of `y`. -/
structure Merges (takes : α → α → Bool) (Fits : α → α → Prop) : Prop where
  trans {x y z : α} : Fits x y → Fits y z → Fits x z
  right {x y : α} : takes y x = true → Fits y x
  left {x y : α} : takes y x = false → Fits x y
  behind_left {x later y : α} : takes y x = true → Fits x later → takes y later = true
  behind_right {x y later : α} : takes y x = false → Fits y later → takes later x = false

theorem Consistent.front (consistent : Consistent before) :
    Merges before fun x y => before y x = false where
  trans := consistent.trans
  right := consistent.asymm
  left := id
  behind_left := consistent.before_of_not_after
  behind_right rest later := consistent.trans rest later

theorem Consistent.back (consistent : Consistent before) :
    Merges (fun y x => !before y x) fun x y => before x y = false where
  trans first second := consistent.trans second first
  right rest := by simpa using rest
  left less := consistent.asymm (by simpa using less)
  behind_left rest later := by simpa using consistent.trans later (by simpa using rest)
  behind_right less later := by
    simpa using consistent.before_of_not_before later (by simpa using less)

/-- A place in two lists up to which all items are taken before the others: behind `a` items of the
left list and `c` of the right one. -/
structure Cut (takes : α → α → Bool) (left right : List α) (a c : Nat) : Prop where
  left_fits : a ≤ left.length
  right_fits : c ≤ right.length
  left_first : ∀ x ∈ left.take a, ∀ y ∈ right.drop c, takes y x = false
  right_first : ∀ y ∈ right.take c, ∀ x ∈ left.drop a, takes y x = true

section Merging

variable {takes : α → α → Bool} {Fits : α → α → Prop}

theorem mem_of_mem_mergeFront {count : Nat} {left right : List α} {z : α}
    (h : z ∈ (mergeFront takes count left right).1) : z ∈ left ∨ z ∈ right := by
  fun_induction mergeFront takes count left right with
  | case1 => cases h
  | case2 count x xs y ys _ _ _ own ih =>
    rw [own] at ih
    rcases List.mem_cons.mp h with rfl | h
    · exact .inr List.mem_cons_self
    · exact (ih h).imp_right (List.mem_cons_of_mem _)
  | case3 count x xs y ys _ _ _ own ih =>
    rw [own] at ih
    rcases List.mem_cons.mp h with rfl | h
    · exact .inl List.mem_cons_self
    · exact (ih h).imp_left (List.mem_cons_of_mem _)
  | case4 => cases h

/-- The items of a merge may stand one in front of the other. -/
theorem mergeFront_pairwise (merges : Merges takes Fits) (count : Nat) {left right : List α}
    (hl : left.Pairwise Fits) (hr : right.Pairwise Fits) :
    (mergeFront takes count left right).1.Pairwise Fits := by
  fun_induction mergeFront takes count left right with
  | case1 => exact .nil
  | case2 count x xs y ys first merged _ own ih =>
    rw [own] at ih
    obtain ⟨behind, hr⟩ := List.pairwise_cons.mp hr
    refine .cons (fun z hz => ?_) (ih hl hr)
    have taken : z ∈ (mergeFront takes count (x :: xs) ys).1 := own ▸ hz
    rcases mem_of_mem_mergeFront taken with inLeft | inRight
    · rcases List.mem_cons.mp inLeft with rfl | later
      · exact merges.right first
      · exact merges.trans (merges.right first) ((List.pairwise_cons.mp hl).1 z later)
    · exact behind z inRight
  | case3 count x xs y ys first merged _ own ih =>
    rw [own] at ih
    obtain ⟨behind, hl⟩ := List.pairwise_cons.mp hl
    refine .cons (fun z hz => ?_) (ih hl hr)
    have taken : z ∈ (mergeFront takes count xs (y :: ys)).1 := own ▸ hz
    have rest := merges.left (Bool.eq_false_iff.mpr first)
    rcases mem_of_mem_mergeFront taken with inLeft | inRight
    · exact behind z inLeft
    · rcases List.mem_cons.mp inRight with rfl | later
      · exact rest
      · exact merges.trans rest ((List.pairwise_cons.mp hr).1 z later)
  | case4 => exact .nil

/-- **The items of a merge are all that come first**: it ends at a place at which the order cuts the
two lists. -/
theorem mergeFront_cut (merges : Merges takes Fits) (count : Nat) : ∀ {left right : List α},
    count ≤ left.length → count ≤ right.length → left.Pairwise Fits → right.Pairwise Fits →
      Cut takes left right (mergeFront takes count left right).2
        (count - (mergeFront takes count left right).2) := by
  induction count with
  | zero => exact fun _ _ _ _ => ⟨Nat.zero_le _, Nat.zero_le _, nofun, nofun⟩
  | succ count ih =>
    intro left right enough enough' hl hr
    obtain ⟨x, xs, rfl⟩ := List.exists_cons_of_length_pos (Nat.lt_of_lt_of_le count.succ_pos enough)
    obtain ⟨y, ys, rfl⟩ := List.exists_cons_of_length_pos (Nat.lt_of_lt_of_le count.succ_pos enough')
    rw [List.length_cons] at enough enough'
    obtain ⟨behindLeft, hxs⟩ := List.pairwise_cons.mp hl
    obtain ⟨behindRight, hys⟩ := List.pairwise_cons.mp hr
    rw [mergeFront]
    split
    · next first =>
      have fewer : (mergeFront takes count (x :: xs) ys).2 ≤ count :=
        (mergeFront_perm takes count (x :: xs) ys (by rw [List.length_cons]; omega) (by omega)).1
      have rest := ih (by rw [List.length_cons]; omega) (by omega) hl hys
      dsimp only
      rw [Nat.sub_add_comm fewer]
      refine ⟨rest.left_fits, Nat.succ_le_succ rest.right_fits, rest.left_first,
        fun b hb a ha => ?_⟩
      rcases List.mem_cons.mp hb with rfl | hb
      · rcases List.mem_cons.mp (List.mem_of_mem_drop ha) with rfl | later
        · exact first
        · exact merges.behind_left first (behindLeft a later)
      · exact rest.right_first b hb a ha
    · next first =>
      have rest := ih (by omega) (by rw [List.length_cons]; omega) hxs hr
      dsimp only
      rw [Nat.add_sub_add_right]
      refine ⟨Nat.succ_le_succ rest.left_fits, rest.right_fits, fun a ha b hb => ?_,
        rest.right_first⟩
      rcases List.mem_cons.mp ha with rfl | ha
      · rcases List.mem_cons.mp (List.mem_of_mem_drop hb) with rfl | later
        · exact Bool.eq_false_iff.mpr first
        · exact merges.behind_right (Bool.eq_false_iff.mpr first) (behindRight b later)
      · exact rest.left_first a ha b hb

theorem exists_mem_take_drop {items : List α} {b a : Nat} (less : b < a) (fits : b < items.length) :
    ∃ x ∈ items.take a, x ∈ items.drop b :=
  ⟨items[b], List.mem_take_iff_getElem.mpr ⟨b, by omega, rfl⟩,
    List.mem_drop_iff_getElem.mpr ⟨0, by omega, rfl⟩⟩

namespace Cut

variable {left right : List α} {a b c d : Nat}

/-- **Of two cuts one is behind the other**, in both lists: otherwise an item between them in one list
and an item between them in the other would be taken in both orders. -/
theorem le (first : Cut takes left right a c) (last : Cut takes left right b d)
    (sum : a + c ≤ b + d) : a ≤ b ∧ c ≤ d := by
  have := first.left_fits
  have := first.right_fits
  have := last.left_fits
  have := last.right_fits
  by_contra crossed
  rcases Nat.lt_or_ge b a with more | few
  · obtain ⟨x, inFirst, notLast⟩ :=
      exists_mem_take_drop more (show b < left.length by omega)
    obtain ⟨y, inLast, notFirst⟩ :=
      exists_mem_take_drop (show c < d by omega) (show c < right.length by omega)
    exact Bool.noConfusion
      ((first.left_first x inFirst y notFirst).symm.trans (last.right_first y inLast x notLast))
  · obtain ⟨x, inLast, notFirst⟩ :=
      exists_mem_take_drop (show a < b by omega) (show a < left.length by omega)
    obtain ⟨y, inFirst, notLast⟩ :=
      exists_mem_take_drop (show d < c by omega) (show d < right.length by omega)
    exact Bool.noConfusion
      ((last.left_first x inLast y notLast).symm.trans (first.right_first y inFirst x notFirst))

theorem of_reverse (cut : Cut (fun y x => !takes y x) left.reverse right.reverse a c) :
    Cut takes left right (left.length - a) (right.length - c) where
  left_fits := Nat.sub_le _ _
  right_fits := Nat.sub_le _ _
  left_first x hx y hy := by
    have taken := cut.right_first y (by simpa [List.take_reverse] using hy) x
      (by simpa [List.drop_reverse] using hx)
    simpa using taken
  right_first y hy x hx := by
    have taken := cut.left_first x (by simpa [List.take_reverse] using hx) y
      (by simpa [List.drop_reverse] using hy)
    simpa using taken

/-- What is behind a cut is not before what is in front of it. -/
theorem apart (consistent : Consistent before) (cut : Cut before left right a c)
    (hl : InOrder before left) (hr : InOrder before right) {z w : α}
    (hz : z ∈ left.take a ++ right.take c) (hw : w ∈ left.drop a ++ right.drop c) :
    before w z = false := by
  have inLeft := List.pairwise_append.mp ((List.take_append_drop a left).symm ▸ hl)
  have inRight := List.pairwise_append.mp ((List.take_append_drop c right).symm ▸ hr)
  rcases List.mem_append.mp hz with hz | hz
  · rcases List.mem_append.mp hw with hw | hw
    · exact inLeft.2.2 z hz w hw
    · exact cut.left_first z hz w hw
  · rcases List.mem_append.mp hw with hw | hw
    · exact consistent.asymm (cut.right_first z hz w hw)
    · exact inRight.2.2 z hz w hw

theorem inOrder_append (consistent : Consistent before) (first : Cut before left right a c)
    (last : Cut before left right b d) (meet : a ≤ b ∧ c ≤ d) (hl : InOrder before left)
    (hr : InOrder before right) {front rest back : List α} (hf : InOrder before front)
    (hm : InOrder before rest) (hb : InOrder before back)
    (inFront : ∀ z ∈ front, z ∈ left.take a ++ right.take c)
    (behindFirst : ∀ w ∈ rest, w ∈ left.drop a ++ right.drop c)
    (beforeLast : ∀ z ∈ rest, z ∈ left.take b ++ right.take d)
    (behindLast : ∀ w ∈ back, w ∈ left.drop b ++ right.drop d) :
    InOrder before (front ++ rest ++ back) := by
  have middle : InOrder before (front ++ rest) := List.pairwise_append.mpr ⟨hf, hm,
    fun z hz w hw => first.apart consistent hl hr (inFront z hz) (behindFirst w hw)⟩
  refine List.pairwise_append.mpr ⟨middle, hb, fun z hz w hw => ?_⟩
  rcases List.mem_append.mp hz with hz | hz
  · have behind : w ∈ left.drop a ++ right.drop c :=
      List.mem_append.mpr ((List.mem_append.mp (behindLast w hw)).imp
        (fun h => List.drop_subset_drop_left left meet.1 h)
        (fun h => List.drop_subset_drop_left right meet.2 h))
    exact first.apart consistent hl hr (inFront z hz) behind
  · exact last.apart consistent hl hr (beforeLast z hz) (behindLast w hw)

end Cut

end Merging

/-! ## Both ends at once -/

/-- The merge from the back takes, in order, what is behind a cut. -/
theorem mergeBack_cut (consistent : Consistent before) {left right back : List α} {b : Nat}
    (shorter : left.length ≤ right.length) (hl : InOrder before left) (hr : InOrder before right)
    (h : mergeBack before left.length left.reverse right.reverse = (back, b)) :
    b ≤ left.length ∧ InOrder before back.reverse ∧
      (∀ w ∈ back, w ∈ left.drop (left.length - b) ++
        right.drop (right.length - (left.length - b))) ∧
      Cut before left right (left.length - b) (right.length - (left.length - b)) := by
  have enough : left.length ≤ left.reverse.length := Nat.le_of_eq List.length_reverse.symm
  have enough' : left.length ≤ right.reverse.length := by rwa [List.length_reverse]
  have fromLast := List.pairwise_reverse.mpr hl
  have fromLast' := List.pairwise_reverse.mpr hr
  have taken := mergeFront_perm (fun y x => !before y x) left.length _ _ enough enough'
  have ordered := mergeFront_pairwise consistent.back left.length fromLast fromLast'
  have cut := mergeFront_cut consistent.back left.length enough enough' fromLast fromLast'
  rw [← mergeBack_eq, h] at taken ordered cut
  refine ⟨taken.1, List.pairwise_reverse.mpr ordered, fun w hw => ?_, cut.of_reverse⟩
  simpa [List.take_reverse] using taken.2.mem_iff.mp hw

theorem inOrder_of_length_le_one {items : List α} (few : items.length ≤ 1) :
    InOrder before items := by
  match items, few with
  | [], _ => exact .nil
  | [x], _ => exact List.pairwise_singleton _ x

/-- **Two halves merged from both ends** are in order if they were: the merges meet, and leave at most
one item between them. -/
theorem mergeEnds?_inOrder (consistent : Consistent before) {left right : List α}
    (shorter : left.length ≤ right.length) (close : right.length ≤ left.length + 1)
    (hl : InOrder before left) (hr : InOrder before right) :
    ∃ merged, mergeEnds? before left right = some merged ∧ InOrder before merged := by
  have taken := mergeFront_perm before left.length left right (Nat.le_refl _) shorter
  have ordered := mergeFront_pairwise consistent.front left.length hl hr
  have cut := mergeFront_cut consistent.front left.length (Nat.le_refl _) shorter hl hr
  unfold mergeEnds?
  dsimp only
  generalize mergeFront before left.length left right = ends at taken ordered cut ⊢
  obtain ⟨front, a⟩ := ends
  generalize hb : mergeBack before left.length left.reverse right.reverse = ends'
  obtain ⟨back, b⟩ := ends'
  obtain ⟨few, ordered', behind, cut'⟩ := mergeBack_cut consistent shorter hl hr hb
  obtain ⟨fewer, taken⟩ := taken
  dsimp only at fewer taken ordered cut ⊢
  have meet := cut.le cut' (by omega)
  rw [if_pos (by omega)]
  refine ⟨_, rfl, ?_⟩
  -- what is left between the merges is behind the first cut and in front of the second one
  generalize hm : (left.drop a).take (left.length - a - b) ++ (right.drop (left.length - a)).take
    (right.length - (left.length - a) - (left.length - b)) = rest
  have behindFirst : ∀ w ∈ rest, w ∈ left.drop a ++ right.drop (left.length - a) := by
    intro w hw
    rw [← hm] at hw
    exact List.mem_append.mpr ((List.mem_append.mp hw).imp List.mem_of_mem_take List.mem_of_mem_take)
  have beforeLast : ∀ z ∈ rest, z ∈ left.take (left.length - b) ++
      right.take (right.length - (left.length - b)) := by
    intro z hz
    rw [← hm, Nat.sub_right_comm left.length, Nat.sub_right_comm right.length, ← List.drop_take,
      ← List.drop_take] at hz
    exact List.mem_append.mpr ((List.mem_append.mp hz).imp List.mem_of_mem_drop List.mem_of_mem_drop)
  have alone : InOrder before rest := by
    refine inOrder_of_length_le_one ?_
    rw [← hm, List.length_append, List.length_take, List.length_take, List.length_drop,
      List.length_drop]
    omega
  exact cut.inOrder_append consistent cut' meet hl hr ordered alone ordered'
    (fun z hz => taken.mem_iff.mp hz) behindFirst beforeLast
    fun w hw => behind w (List.mem_reverse.mp hw)

/-! ## Runs -/

/-- **Two runs merged** are in order if they were. -/
theorem merge_inOrder (consistent : Consistent before) {left right : List α}
    (hl : InOrder before left) (hr : InOrder before right) :
    InOrder before (merge before left right) := by
  have trans : ∀ x y z : α, (!before y x) = true → (!before z y) = true → (!before z x) = true := by
    simpa using fun x y z first second => consistent.trans first second
  have total : ∀ x y : α, (!before y x || !before x y) = true := by
    intro x y
    cases h : before y x with
    | false => rfl
    | true => rw [consistent.asymm h]; rfl
  have back : ∀ x y z : α, (!before x y) = true → (!before y z) = true → (!before x z) = true :=
    fun x y z first second => trans z y x second first
  unfold InOrder merge at *
  split
  · have merged := List.pairwise_merge trans total left right (by simpa using hl) (by simpa using hr)
    simpa using merged
  · have merged := List.pairwise_merge back (fun x y => total y x) right.reverse left.reverse
      (by simpa [List.pairwise_reverse] using hr) (by simpa [List.pairwise_reverse] using hl)
    simpa [List.pairwise_reverse] using merged

end EntitySearch.Sorting

import EntitySearch.Engine.Memory
import EntitySearch.Proofs.Engine.Comparison
import EntitySearch.Proofs.Number.Integers
import EntitySearch.Proofs.Sorting.Ordered
import Mathlib.Order.Compare

/-!
# Searches put their hits in order

A sort whose order does not contradict itself on the documents found always succeeds, and no hit comes
before one in front of it. So a search sorted by a path at which all hits have integers is answered, and
the integers are never in reverse order. Two of them tie if they have the same nearest double-precision
number, whatever their own order is (`not_always_integer_order`); this does not happen up to `2 ^ 53`.

* `exists_found?`: searches with a sort that makes sense.
* `compareValues_int`: how two integers are compared.
* `integers_sorted`: the main result.
-/

namespace EntitySearch

open Std (OrientedCmp TransCmp)

/-! ## Orders of documents -/

namespace Sorting

variable {α β : Type}

theorem Consistent.of_transCmp (cmp : α → α → Ordering) [TransCmp cmp] :
    Consistent fun a b => cmp a b == .lt where
  asymm {x y} less := by
    have swapped : cmp y x = (cmp x y).swap := OrientedCmp.eq_swap
    rw [swapped, beq_iff_eq.mp less]
    rfl
  trans {x y z} first second := by
    have isLE : ∀ a b : α, (cmp b a == .lt) = false ↔ (cmp a b).isLE := by
      intro a b
      have swapped : cmp b a = (cmp a b).swap := OrientedCmp.eq_swap
      rw [swapped]
      cases cmp a b <;> decide
    rw [isLE] at *
    exact TransCmp.isLE_trans first second

theorem Consistent.onFun {before : α → α → Bool} (consistent : Consistent before) (f : β → α) :
    Consistent fun a b => before (f a) (f b) where
  asymm less := consistent.asymm less
  trans first second := consistent.trans first second

end Sorting

namespace MemoryEngine

open Sorting

variable {request : SearchRequest} {documents : List Document}

/-- **What is found is in order** if the documents can be sorted. -/
theorem exists_found? (sortable : Sortable request.sort
      ((documents.filter (isHit request)).map (·.source))) :
    ∃ listing, found? request documents = some listing ∧
      listing.Perm (documents.filter (isHit request)) ∧
      listing.Pairwise fun a b => compareSources request.sort a.source b.source ≠ .gt := by
  unfold found?
  dsimp only
  generalize documents.filter (isHit request) = hits at sortable ⊢
  split
  · next unsorted =>
    rw [List.isEmpty_iff] at unsorted
    rw [unsorted]
    exact ⟨hits, rfl, .refl _, List.pairwise_of_forall fun _ _ => nofun⟩
  · have trans := transCmp_compareSources sortable
    have consistent : Consistent fun a b : { hit // hit ∈ hits } =>
        compareSources request.sort a.1.source b.1.source == .lt :=
      (@Consistent.of_transCmp _ _ trans).onFun fun hit : { hit // hit ∈ hits } =>
        ⟨hit.1.source, List.mem_map_of_mem hit.2⟩
    obtain ⟨listing, sorts, perm, ordered⟩ := exists_sort?
      (fun a b : Document => compareSources request.sort a.source b.source == .lt) consistent
    refine ⟨listing, sorts, perm, ordered.imp fun {a b} kept reversed => ?_⟩
    have last : compareSources request.sort b.source a.source = .lt := by
      rw [compareSources_swap, reversed]
      rfl
    simp [last] at kept

theorem exists_search? {engine : MemoryEngine} {index : MemoryIndex}
    (present : engine.indices.find? request.index = some index)
    (sortable : Sortable request.sort ((index.documents.filter (isHit request)).map (·.source))) :
    ∃ listing response, engine.search? request = some (.ok response) ∧
      response.total = listing.length ∧ response.hits = page request listing ∧
      listing.Perm (index.documents.filter (isHit request)) ∧
      listing.Pairwise fun a b => compareSources request.sort a.source b.source ≠ .gt := by
  obtain ⟨listing, found, perm, ordered⟩ := exists_found? sortable
  have answer : engine.search? request = some (.ok ⟨listing.length,
      engine.faults.shardFailure.toList.map fun reason => ⟨some request.index, some 0, reason⟩,
      page request listing⟩) := by
    rw [search?, present]
    dsimp only
    rw [found]
    rfl
  exact ⟨listing, _, answer, rfl, rfl, perm, ordered⟩

end MemoryEngine

/-! ## Integers -/

/-- **Two integers** tie if they have the same nearest double-precision number, and are in their own
order otherwise. -/
theorem compareValues_int {z w : Int} (hz : Number.IsWord z) (hw : Number.IsWord w) :
    compareValues (.int z) (.int w) =
      if Binary64.ofInt? z = Binary64.ofInt? w then .eq else compare z w := by
  obtain ⟨x, hx⟩ := Binary64.exists_ofInt hz
  obtain ⟨y, hy⟩ := Binary64.exists_ofInt hw
  rw [compareValues_numbers (x := .int z) (y := .int w) hx hy, Binary64.value_of_ofInt? hx,
    Binary64.value_of_ofInt? hy]
  split
  · next same => rw [(Binary64.rounded_eq_iff hz).mpr same, Std.compare_self]
  · next other =>
    have apart := mt (Binary64.rounded_eq_iff hz).mp other
    rcases lt_trichotomy z w with less | rfl | more
    · have le := Binary64.rounded_mono less.le
      rw [compare_lt_iff_lt.mpr less, compare_lt_iff_lt.mpr (lt_of_le_of_ne le apart)]
    · exact absurd rfl apart
    · have le := Binary64.rounded_mono more.le
      rw [compare_gt_iff_gt.mpr more, compare_gt_iff_gt.mpr (lt_of_le_of_ne le (Ne.symm apart))]

theorem Binary64.ofInt?_injOn {z w : Int} (hz : z.natAbs ≤ 2 ^ 53) (hw : w.natAbs ≤ 2 ^ 53)
    (same : Binary64.ofInt? z = Binary64.ofInt? w) : z = w := by
  have values := (Binary64.rounded_eq_iff (Number.isWord_of_natAbs_le hz)).mpr same
  rw [Binary64.rounded_exact hz, Binary64.rounded_exact hw] at values
  exact mul_right_cancel₀ (by exact_mod_cast Binary64.one_pos.ne') values

theorem compareValues_int_exact {z w : Int} (hz : z.natAbs ≤ 2 ^ 53) (hw : w.natAbs ≤ 2 ^ 53) :
    compareValues (.int z) (.int w) = compare z w := by
  rw [compareValues_int (Number.isWord_of_natAbs_le hz) (Number.isWord_of_natAbs_le hw)]
  split
  · next same => rw [Binary64.ofInt?_injOn hz hw same, Std.compare_self]
  · rfl

/-- The integer of a document at a path; zero if there is none. -/
def Document.integerAt (path : String) (document : Document) : Int :=
  match fieldValue? document.source path with
  | some (.number (.integer z)) => z
  | _ => 0

theorem Document.integerAt_eq {path : String} {document : Document} {z : Int}
    (found : fieldValue? document.source path = some (.int z)) : document.integerAt path = z := by
  rw [integerAt, found]
  rfl

namespace MemoryEngine

variable {engine : MemoryEngine} {request : SearchRequest} {index : MemoryIndex} {path : String}

theorem sortable_of_integers {documents : List Document}
    (integers : ∀ document ∈ documents, ∃ z, Number.IsWord z ∧
      fieldValue? document.source path = some (.int z)) :
    Sortable [⟨path, true⟩] (documents.map (·.source)) := by
  refine List.forall_mem_singleton.mpr (.inl fun value hv => ?_)
  obtain ⟨source, hs, found⟩ := List.mem_filterMap.mp hv
  obtain ⟨document, hd, rfl⟩ := List.mem_map.mp hs
  obtain ⟨z, word, at_path⟩ := integers document hd
  obtain rfl := Option.some.inj (found.symm.trans at_path)
  obtain ⟨x, hx⟩ := Binary64.exists_ofInt word
  exact Option.isSome_iff_exists.mpr ⟨x, hx⟩

theorem compareSources_one {a b : Fields} {x y : Json} (ha : fieldValue? a path = some x)
    (hb : fieldValue? b path = some y) :
    compareSources [⟨path, true⟩] a b = compareValues x y := by
  rw [compareSources_cons, compareAt, ha, hb, compareSources, Ordering.then_eq]
  rfl

/-- **Sorting by integers.** Two integers of 64 bits, with a sign or without one, are compared as
integers, unless they have the same nearest double-precision number; up to `2 ^ 53` they never have. A
search sorted upwards by a path at which all documents found have such integers is answered, with a page
of these documents, each once. No integer is followed by a smaller one that does not tie with it, and by
no smaller one at all if none is beyond `2 ^ 53`. -/
theorem integers_sorted (present : engine.indices.find? request.index = some index)
    (sort : request.sort = [⟨path, true⟩])
    (integers : ∀ document ∈ index.documents.filter (isHit request), ∃ z, Number.IsWord z ∧
      fieldValue? document.source path = some (.int z)) :
    (∀ z w, Number.IsWord z → Number.IsWord w → compareValues (.int z) (.int w) =
      if Binary64.ofInt? z = Binary64.ofInt? w then .eq else compare z w) ∧
    (∀ z w : Int, z.natAbs ≤ 2 ^ 53 → w.natAbs ≤ 2 ^ 53 →
      compareValues (.int z) (.int w) = compare z w) ∧
    ∃ (listing : List Document) (response : SearchResponse),
      engine.search? request = some (.ok response) ∧
      listing.Perm (index.documents.filter (isHit request)) ∧
      response.total = listing.length ∧
      response.hits.map (·.sort) = (((listing.drop request.offset).take request.limit).map
        fun document => [.int (document.integerAt path)]) ∧
      (listing.map (·.integerAt path)).Pairwise (fun z w =>
        z ≤ w ∨ Binary64.ofInt? z = Binary64.ofInt? w) ∧
      ((∀ document ∈ listing, (document.integerAt path).natAbs ≤ 2 ^ 53) →
        (listing.map (·.integerAt path)).Pairwise (· ≤ ·)) := by
  have sortable := sortable_of_integers integers
  rw [← sort] at sortable
  obtain ⟨listing, response, answered, total, hits, perm, ordered⟩ :=
    exists_search? present sortable
  have values : ∀ document ∈ listing, Number.IsWord (document.integerAt path) ∧
      fieldValue? document.source path = some (.int (document.integerAt path)) := by
    intro document hd
    obtain ⟨z, word, found⟩ := integers document (perm.mem_iff.mp hd)
    rw [Document.integerAt_eq found]
    exact ⟨word, found⟩
  have weak : listing.Pairwise fun a b => a.integerAt path ≤ b.integerAt path ∨
      Binary64.ofInt? (a.integerAt path) = Binary64.ofInt? (b.integerAt path) := by
    refine ordered.imp_of_mem fun {a b} ha hb kept => ?_
    obtain ⟨wordA, foundA⟩ := values a ha
    obtain ⟨wordB, foundB⟩ := values b hb
    rw [sort, compareSources_one foundA foundB, compareValues_int wordA wordB] at kept
    by_contra neither
    obtain ⟨more, apart⟩ := not_or.mp neither
    exact kept (by rw [if_neg apart, compare_gt_iff_gt.mpr (Int.not_le.mp more)])
  refine ⟨fun z w => compareValues_int, fun z w => compareValues_int_exact, listing, response,
    answered, perm, total, ?_, List.pairwise_map.mpr weak, fun few => List.pairwise_map.mpr ?_⟩
  · rw [hits, page, List.map_map]
    refine List.map_congr_left fun document hd => ?_
    have inListing := List.mem_of_mem_drop (List.mem_of_mem_take hd)
    simp only [Function.comp_apply, hit, sort, List.map_cons, List.map_nil,
      (values document inListing).2, Option.getD_some]
  · refine weak.imp_of_mem fun {a b} ha hb either => ?_
    rcases either with le | tie
    · exact le
    · exact le_of_eq (Binary64.ofInt?_injOn (few a ha) (few b hb) tie)

/-- An engine with three integers, two of which have the same nearest double-precision number. -/
def measuredEngine : MemoryEngine where
  indices := [("main", {
    documents := [⟨"1", "A", [("f", .int 9007199254740993)]⟩, ⟨"2", "A", [("f", .int 7)]⟩,
      ⟨"3", "A", [("f", .int 9007199254740992)]⟩] })]

/-- A search for them, the smallest one first. -/
def measuredSearch : SearchRequest where
  index := "main"
  entityTypes := ["A"]
  query := .matchAll
  sort := [⟨"f", true⟩]

/-- Three integers are found, in order up to ties. -/
theorem integers_sorted_measured : ∃ (keys : List Int) (response : SearchResponse),
    measuredEngine.search? measuredSearch = some (.ok response) ∧ response.total = 3 ∧
    keys.length = 3 ∧ response.hits.map (·.sort) = keys.map (fun z => [.int z]) ∧
    keys.Pairwise fun z w => z ≤ w ∨ Binary64.ofInt? z = Binary64.ofInt? w := by
  obtain ⟨-, -, listing, response, answered, perm, total, hits, ordered, -⟩ :=
    @integers_sorted measuredEngine measuredSearch _ "f" rfl rfl (by
      intro document hd
      have known := List.mem_of_mem_filter hd
      simp only [List.mem_cons, List.not_mem_nil, or_false] at known
      rcases known with rfl | rfl | rfl
      · exact ⟨9007199254740993, by decide, rfl⟩
      · exact ⟨7, by decide, rfl⟩
      · exact ⟨9007199254740992, by decide, rfl⟩)
  have three : listing.length = 3 := perm.length_eq
  have page : (listing.drop measuredSearch.offset).take measuredSearch.limit = listing :=
    List.take_of_length_le (by rw [List.length_drop, three]; decide)
  refine ⟨listing.map (·.integerAt "f"), response, answered, total.trans three, ?_, ?_, ordered⟩
  · rw [List.length_map, three]
  · rw [hits, page, List.map_map]
    rfl

end MemoryEngine

/-- Integers that are not compared as integers: the first two natural numbers of which one has more
than 53 binary digits. -/
theorem not_always_integer_order :
    ¬ ∀ z w : Int, Number.IsWord z → Number.IsWord w →
      compareValues (.int z) (.int w) = compare z w := by
  intro claimed
  have tied : compareValues (.int 9007199254740992) (.int 9007199254740993) = .eq := by
    decide +kernel
  have apart := claimed 9007199254740992 9007199254740993 (by decide) (by decide)
  rw [tied] at apart
  cases apart

end EntitySearch

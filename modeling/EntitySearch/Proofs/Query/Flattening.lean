import EntitySearch.Proofs.Query.Malformed
import Mathlib.Data.List.Forall2

/-!
# Flattened groups

The engine query of a group has no inner groups: it consists of three lists, which hold the engine
queries of the leaves at every depth, each in the list of its own occur and in the order in which
the leaves are read. Nothing is lost, since every leaf of a group that has an engine query belongs
to one of the three lists, and nothing comes twice or out of order, since the leaves of an occur and
the entries of its list belong together one by one (`listed_of_flatten`).

* `Query.Renders`: the engine query that a leaf becomes.
* `TargetQuery.Part`: the parts of an engine query, at every depth.
* `Query.targetIn_group`: the engine query of a group, with its lists.
* `targetFor_group`: the same for an entity type by name, and what its parts are.
-/

namespace EntitySearch

/-- The parts of an engine query: the query itself, and the parts of its members. -/
inductive TargetQuery.Part (part : TargetQuery) : TargetQuery → Prop
  | self : Part part part
  | member {query : TargetQuery} {must mustNot should : List TargetQuery} :
    query ∈ must ++ mustNot ++ should → Part part query → Part part (.bool must mustNot should)

/-- Whether an engine query is made of others. -/
def TargetQuery.isBool : TargetQuery → Bool
  | .bool _ _ _ => true
  | _ => false

theorem TargetQuery.Part.eq_of_simple {part query : TargetQuery} (h : query.isBool = false)
    (hp : Part part query) : part = query := by
  cases hp with
  | self => rfl
  | member _ _ => cases h

theorem Descriptor.mem_of_field? {descriptor : Descriptor} {name : String} {field : Field}
    (h : descriptor.field? name = .ok field) : field ∈ descriptor.fields ∧ field.name = name := by
  unfold field? at h
  split at h
  · rename_i found hf
    cases h
    have hn := List.find?_some hf
    exact ⟨List.mem_of_find?_eq_some hf, of_decide_eq_true hn⟩
  · cases h

theorem ClauseLists.isEmpty_iff (found : ClauseLists) :
    found.isEmpty = true ↔ found.must ++ found.mustNot ++ found.should = [] := by
  simp [isEmpty, and_assoc]

namespace Query

/-- The engine query that a leaf becomes: a wildcard asks for the exact values of a field that has
no others, and a wildcard on an analyzed field becomes a text. -/
inductive Renders (descriptor : Descriptor) : Query → TargetQuery → Prop
  | matchAll : Renders descriptor .matchAll .matchAll
  | verbatim (text : String) : Renders descriptor (.verbatim text) (.queryString text)
  | exact {name pattern : String} {field : Field} :
    descriptor.field? name = .ok field → field.analyzed = false →
    Renders descriptor (.wildcard name pattern) (.wildcard field.rawPath pattern)
  | analyzed {name pattern : String} {field : Field} :
    descriptor.field? name = .ok field → field.analyzed = true →
    Renders descriptor (.wildcard name pattern) (.queryString (name ++ ":" ++ pattern))

variable {descriptor : Descriptor}

/-! ## Leaves -/

theorem renders_of_targetIn {query : Query} {target : TargetQuery} (h : query.isGroup = false)
    (ht : query.targetIn descriptor = .ok target) : Renders descriptor query target := by
  cases query with
  | group clauses => cases h
  | matchAll =>
    cases ht
    exact .matchAll
  | verbatim text =>
    cases ht
    exact .verbatim text
  | wildcard name pattern =>
    rw [targetIn, wildcardTarget] at ht
    cases hf : descriptor.field? name with
    | error unknown =>
      rw [hf] at ht
      cases ht
    | ok field =>
      simp only [hf] at ht
      cases ha : field.analyzed with
      | true =>
        rw [if_pos ha] at ht
        cases ht
        exact .analyzed hf ha
      | false =>
        rw [if_neg (Bool.eq_false_iff.mp ha)] at ht
        cases ht
        exact .exact hf ha

namespace Renders

theorem isBool {query : Query} {target : TargetQuery} (h : Renders descriptor query target) :
    target.isBool = false := by
  cases h <;> rfl

theorem of_wildcard {query : Query} {path pattern : String}
    (h : Renders descriptor query (.wildcard path pattern)) :
    ∃ field ∈ descriptor.fields, field.analyzed = false ∧ path = field.rawPath ∧
      query = .wildcard field.name pattern := by
  cases h with
  | @exact name _ field hf ha =>
    obtain ⟨hm, rfl⟩ := Descriptor.mem_of_field? hf
    exact ⟨field, hm, ha, rfl, rfl⟩

theorem eq_text {name pattern : String} {field : Field} {target : TargetQuery}
    (h : Renders descriptor (.wildcard name pattern) target)
    (hf : descriptor.field? name = .ok field) (ha : field.analyzed = true) :
    target = .queryString (name ++ ":" ++ pattern) := by
  cases h with
  | analyzed _ _ => rfl
  | exact hf' ha' =>
    cases hf.symm.trans hf'
    cases ha.symm.trans ha'

end Renders

/-! ## Lists of leaves -/

theorem mem_leavesUnder {occur : Occur} {leaf : Clause} {leaves : List Clause} :
    leaf ∈ leavesUnder occur leaves ↔ leaf ∈ leaves ∧ leaf.1 = occur := by
  simp [leavesUnder]

/-- Engine queries belong to leaves, one by one. -/
def Listed (descriptor : Descriptor) : List Clause → List TargetQuery → Prop :=
  List.Forall₂ fun leaf target => Renders descriptor leaf.2 target

/-- The entries of the list of an occur belong to the leaves of that occur, one by one. -/
theorem listed_of_flatten {clauses : List Clause} {found : ClauseLists}
    (h : flatten descriptor {} clauses = .ok found) (occur : Occur)
    (known : occur ≠ .unrecognized) :
    Listed descriptor (leavesUnder occur (leavesOf clauses)) (found.of occur) := by
  have pairs : List.Forall₂ (fun leaf target => leaf.2.targetIn descriptor = .ok target)
      (leavesUnder occur (leavesOf clauses)) (found.of occur) := by
    rw [← List.forall₂_map_left_iff (f := fun leaf : Clause => leaf.2.targetIn descriptor)
      (R := fun result target => result = .ok target), ← of_flatten h known,
      List.forall₂_map_left_iff]
    exact List.forall₂_same.mpr fun _ _ => rfl
  have simple : ∀ leaf ∈ leavesUnder occur (leavesOf clauses), leaf.2.isGroup = false :=
    fun leaf hl => ((mem_leavesOf_iff clauses).mp (mem_leavesUnder.mp hl).1).1
  refine ((List.forall₂_and_left _ _).mpr ⟨simple, pairs⟩).imp ?_
  exact fun leaf target ⟨hs, ht⟩ => renders_of_targetIn hs ht

namespace Listed

variable {leaves : List Clause} {targets : List TargetQuery}

theorem exists_leaf (h : Listed descriptor leaves targets) {target : TargetQuery}
    (ht : target ∈ targets) : ∃ leaf ∈ leaves, Renders descriptor leaf.2 target := by
  induction h with
  | nil => cases ht
  | @cons leaf first leaves targets hr _ ih =>
    rcases List.mem_cons.mp ht with rfl | ht
    · exact ⟨leaf, List.mem_cons_self, hr⟩
    · obtain ⟨leaf, hl, hr⟩ := ih ht
      exact ⟨leaf, List.mem_cons_of_mem _ hl, hr⟩

theorem exists_target (h : Listed descriptor leaves targets) {leaf : Clause}
    (hl : leaf ∈ leaves) : ∃ target ∈ targets, Renders descriptor leaf.2 target := by
  induction h with
  | nil => cases hl
  | @cons first target leaves targets hr _ ih =>
    rcases List.mem_cons.mp hl with rfl | hl
    · exact ⟨target, List.mem_cons_self, hr⟩
    · obtain ⟨target, ht, hr⟩ := ih hl
      exact ⟨target, List.mem_cons_of_mem _ ht, hr⟩

end Listed

/-- The lists of the engine query of a group with certain leaves: no leaf is left over, and each
list belongs to the leaves of its occur. -/
structure Gathered (descriptor : Descriptor) (leaves : List Clause)
    (must mustNot should : List TargetQuery) : Prop where
  recognized : ∀ leaf ∈ leaves, leaf.1 ≠ .unrecognized
  must : Listed descriptor (leavesUnder .must leaves) must
  mustNot : Listed descriptor (leavesUnder .mustNot leaves) mustNot
  should : Listed descriptor (leavesUnder .should leaves) should

namespace Gathered

variable {leaves : List Clause} {must mustNot should : List TargetQuery}

/-- Every member of the lists comes from a leaf. -/
theorem exists_leaf (h : Gathered descriptor leaves must mustNot should) {target : TargetQuery}
    (ht : target ∈ must ++ mustNot ++ should) :
    ∃ leaf ∈ leaves, Renders descriptor leaf.2 target := by
  have own : ∃ occur, ∃ leaf ∈ leavesUnder occur leaves, Renders descriptor leaf.2 target := by
    rcases List.mem_append.mp ht with ht | ht
    · rcases List.mem_append.mp ht with ht | ht
      · exact ⟨_, h.must.exists_leaf ht⟩
      · exact ⟨_, h.mustNot.exists_leaf ht⟩
    · exact ⟨_, h.should.exists_leaf ht⟩
  obtain ⟨_, leaf, hl, hr⟩ := own
  exact ⟨leaf, (mem_leavesUnder.mp hl).1, hr⟩

/-- Every leaf has come into one of the lists. -/
theorem exists_target (h : Gathered descriptor leaves must mustNot should) {leaf : Clause}
    (hl : leaf ∈ leaves) :
    ∃ target ∈ must ++ mustNot ++ should, Renders descriptor leaf.2 target := by
  have under := mem_leavesUnder.mpr ⟨hl, rfl⟩
  cases ho : leaf.1 with
  | unrecognized => exact absurd ho (h.recognized leaf hl)
  | must =>
    obtain ⟨target, ht, hr⟩ := h.must.exists_target (ho ▸ under)
    exact ⟨target, by simp [ht], hr⟩
  | mustNot =>
    obtain ⟨target, ht, hr⟩ := h.mustNot.exists_target (ho ▸ under)
    exact ⟨target, by simp [ht], hr⟩
  | should =>
    obtain ⟨target, ht, hr⟩ := h.should.exists_target (ho ▸ under)
    exact ⟨target, by simp [ht], hr⟩

theorem isBool (h : Gathered descriptor leaves must mustNot should) {target : TargetQuery}
    (ht : target ∈ must ++ mustNot ++ should) : target.isBool = false := by
  obtain ⟨leaf, _, hr⟩ := h.exists_leaf ht
  exact hr.isBool

theorem nil_iff (h : Gathered descriptor leaves must mustNot should) :
    must ++ mustNot ++ should = [] ↔ leaves = [] := by
  simp only [List.eq_nil_iff_forall_not_mem]
  constructor
  · intro none leaf hl
    obtain ⟨target, ht, _⟩ := h.exists_target hl
    exact none target ht
  · intro none target ht
    obtain ⟨leaf, hl, _⟩ := h.exists_leaf ht
    exact none leaf hl

end Gathered

/-! ## Groups -/

theorem gathered_of_flatten {clauses : List Clause} {found : ClauseLists}
    (h : flatten descriptor {} clauses = .ok found) :
    Gathered descriptor (leavesOf clauses) found.must found.mustNot found.should where
  recognized := by
    rw [flatten_eq_foldlM] at h
    exact fun leaf hl => ((foldlM_gather_eq_ok_iff _ _).mp ⟨found, h⟩ leaf hl).2
  must := listed_of_flatten h .must nofun
  mustNot := listed_of_flatten h .mustNot nofun
  should := listed_of_flatten h .should nofun

/-- **The engine query of a group** is the one for every document if the group has no leaves, and
else consists of the lists of its leaves. -/
theorem targetIn_group {clauses : List Clause} {target : TargetQuery}
    (h : (Query.group clauses).targetIn descriptor = .ok target) :
    (leavesOf clauses = [] ∧ target = .matchAll) ∨
      leavesOf clauses ≠ [] ∧ ∃ must mustNot should, target = .bool must mustNot should ∧
        Gathered descriptor (leavesOf clauses) must mustNot should := by
  rw [targetIn] at h
  cases hf : flatten descriptor {} clauses with
  | error cause =>
    rw [hf] at h
    cases h
  | ok found =>
    rw [hf] at h
    cases h
    have gathered := gathered_of_flatten hf
    rw [ClauseLists.target]
    split
    · rename_i empty
      exact .inl ⟨gathered.nil_iff.mp (found.isEmpty_iff.mp empty), rfl⟩
    · rename_i some
      exact .inr ⟨fun none => some (found.isEmpty_iff.mpr (gathered.nil_iff.mpr none)),
        _, _, _, rfl, gathered⟩

end Query

/-! ## Main results -/

/-- **What becomes of a group.** For every entity type and every group that has an engine query for
it, with the leaves at all depths read from left to right, each under its own occur: the query is
the one for every document exactly if there are no leaves, which is so exactly for the empty groups.
Otherwise it consists of three lists, which hold the engine queries of the leaves, those of each
occur in their order, and no leaf is left over. So nothing in it is made of other queries but
itself; every wildcard in it asks, with a pattern that is unchanged, for the exact values of a
declared field that is not analyzed; and every leaf that is a wildcard on an analyzed field has
become a text. -/
theorem targetFor_group {resolver : Resolver} {entity : String} {descriptor : Descriptor}
    {clauses : List Clause} {target : TargetQuery}
    (known : resolver.descriptor entity = .ok descriptor)
    (h : targetFor resolver (.group clauses) entity = .ok target) :
    (target = .matchAll ↔ Query.leavesOf clauses = []) ∧
    (target = .matchAll ↔ (Query.group clauses).isEmptyGroup = true) ∧
    (Query.leavesOf clauses ≠ [] → ∃ must mustNot should, target = .bool must mustNot should ∧
      Query.Gathered descriptor (Query.leavesOf clauses) must mustNot should) ∧
    (∀ part, TargetQuery.Part part target → part.isBool = true → part = target) ∧
    (∀ path pattern, TargetQuery.Part (.wildcard path pattern) target →
      ∃ field ∈ descriptor.fields, field.analyzed = false ∧ path = field.rawPath ∧
        ∃ occur, (occur, .wildcard field.name pattern) ∈ Query.leavesOf clauses) ∧
    (∀ occur name pattern field, (occur, .wildcard name pattern) ∈ Query.leavesOf clauses →
      descriptor.field? name = .ok field → field.analyzed = true →
      TargetQuery.Part (.queryString (name ++ ":" ++ pattern)) target) := by
  rw [targetFor, known] at h
  have empty := (Query.leavesOf_eq_nil_iff clauses).symm
  rcases Query.targetIn_group h with ⟨none, rfl⟩ | ⟨some, must, mustNot, should, rfl, gathered⟩
  · refine ⟨iff_of_true rfl none, iff_of_true rfl (empty.mpr none), fun some => absurd none some,
      fun part hp _ => hp.eq_of_simple rfl, fun path pattern hp => ?_, ?_⟩
    · cases hp.eq_of_simple rfl
    · intro occur name pattern field hl
      rw [none] at hl
      cases hl
  · refine ⟨iff_of_false nofun some, iff_of_false nofun fun all => some (empty.mp all),
      fun _ => ⟨must, mustNot, should, rfl, gathered⟩, fun part hp hb => ?_,
      fun path pattern hp => ?_, fun occur name pattern field hl hf ha => ?_⟩
    · cases hp with
      | self => rfl
      | member hm hp =>
        have simple := gathered.isBool hm
        rw [← hp.eq_of_simple simple, hb] at simple
        cases simple
    · cases hp with
      | member hm hp =>
        obtain ⟨⟨occur, query⟩, hl, hr⟩ := gathered.exists_leaf hm
        rw [← hp.eq_of_simple (gathered.isBool hm)] at hr
        obtain ⟨field, hm, ha, rfl, rfl⟩ := hr.of_wildcard
        exact ⟨field, hm, ha, rfl, occur, hl⟩
    · obtain ⟨target, hm, hr⟩ := gathered.exists_target hl
      rw [← hr.eq_text hf ha]
      exact .member hm .self

/-- An entity type with an analyzed field `t` and a field `x` for exact values. -/
def twoFieldDescriptor : Descriptor :=
  { entityType := "a", indexName := "a", idField := "id"
    fields := [⟨"t", .text, true⟩, ⟨"x", .text, false⟩] }

/-- A schema where every entity type has these two fields. -/
def twoFieldResolver : Resolver :=
  { descriptor := fun _ => .ok twoFieldDescriptor, entityTypes := ["a"] }

/-- A tree with leaves at three depths, under all three occurs, and an empty group among them. -/
def mixedClauses : List Clause :=
  [(.must, .wildcard "x" "a*"),
    (.mustNot, .group [(.should, .wildcard "t" "b?"), (.must, .group []),
      (.must, .group [(.mustNot, .verbatim "c"), (.must, .wildcard "x" "d")])]),
    (.should, .matchAll)]

/-- The leaves of this tree come into three lists, those of `x` in their order. -/
theorem targetFor_group_mixed :
    Query.leavesOf mixedClauses ≠ [] ∧ ∃ must mustNot should,
      targetFor twoFieldResolver (.group mixedClauses) "a" = .ok (.bool must mustNot should) ∧
      must = [.wildcard "x" "a*", .wildcard "x" "d"] ∧
      Query.Gathered twoFieldDescriptor (Query.leavesOf mixedClauses) must mustNot should := by
  have found : targetFor twoFieldResolver (.group mixedClauses) "a" =
      .ok (.bool [.wildcard "x" "a*", .wildcard "x" "d"] [.queryString "c"]
        [.queryString "t:b?", .matchAll]) := rfl
  have some : Query.leavesOf mixedClauses ≠ [] := nofun
  obtain ⟨must, mustNot, should, ht, gathered⟩ := (targetFor_group rfl found).2.2.1 some
  cases ht
  exact ⟨some, _, _, _, found, rfl, gathered⟩

end EntitySearch

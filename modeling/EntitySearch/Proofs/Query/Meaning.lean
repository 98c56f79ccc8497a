import EntitySearch.Engine.Match
import EntitySearch.Proofs.Query.Leaves

/-!
# What a query tree means

A group holds of a document if all its required clauses hold, none of its excluded ones does, and,
if it has no required but optional clauses, one of these does. There are two ways to read a tree by
this rule:

* `Query.meaning`: every group by itself, each inner group as one clause of the group around it,
  and empty groups left out;
* `Query.leafwise`: the outermost group only, with the leaves at every depth as its clauses.

The engine query of a tree has the second reading, since groups are flattened
(`holds_eq_leafwise`), and the two readings differ (`not_holds_iff_meaning`). They agree on a tree
whose inner groups fit in: a required one of required and excluded clauses, one of them required,
or an optional one of optional clauses (`meaning_eq_leafwise`). `holds_targetIn` is all of this.
-/

namespace EntitySearch

/-- Whether all required clauses hold and no excluded one does. -/
def demandsHold (verdicts : List (Occur × Bool)) : Bool :=
  (verdicts.all fun (occur, holds) => occur ≠ .must || holds) &&
    !(verdicts.any fun (occur, holds) => occur = .mustNot && holds)

/-- Whether an optional clause holds. -/
def optionHolds (verdicts : List (Occur × Bool)) : Bool :=
  verdicts.any fun (occur, holds) => occur = .should && holds

/-- Whether there is a clause of an occur. -/
def hasClause (occur : Occur) (verdicts : List (Occur × Bool)) : Bool :=
  verdicts.any fun (own, _) => own = occur

/-- Whether a group holds, by the occurs of its clauses and whether they hold. -/
def groupHolds (verdicts : List (Occur × Bool)) : Bool :=
  demandsHold verdicts &&
    (!hasClause .should verdicts || hasClause .must verdicts || optionHolds verdicts)

theorem demandsHold_append (verdicts others : List (Occur × Bool)) :
    demandsHold (verdicts ++ others) = (demandsHold verdicts && demandsHold others) := by
  simp only [demandsHold, List.all_append, List.any_append, Bool.not_or]
  ac_rfl

theorem optionHolds_append (verdicts others : List (Occur × Bool)) :
    optionHolds (verdicts ++ others) = (optionHolds verdicts || optionHolds others) :=
  List.any_append

theorem hasClause_append (occur : Occur) (verdicts others : List (Occur × Bool)) :
    hasClause occur (verdicts ++ others) = (hasClause occur verdicts || hasClause occur others) :=
  List.any_append

namespace Query

variable (descriptor : Descriptor) (source : Fields)

/-- Whether a document matches the engine query of a leaf. -/
def leafHolds (query : Query) : Bool :=
  match query.targetIn descriptor with
  | .ok target => target.holds source
  | .error _ => false

mutual
/-- Whether a tree holds of a document, every group read by itself. -/
def meaning : Query → Bool
  | .group clauses => groupHolds (verdicts clauses)
  | query => query.leafHolds descriptor source
termination_by structural query => query
/-- Whether the members of a group hold; empty groups are left out. -/
def verdicts : List (Occur × Query) → List (Occur × Bool)
  | [] => []
  | (occur, query) :: rest =>
    if query.isEmptyGroup then verdicts rest else (occur, meaning query) :: verdicts rest
termination_by structural clauses => clauses
end

/-- Whether leaves hold. -/
def leafVerdicts (leaves : List Clause) : List (Occur × Bool) :=
  leaves.map fun leaf => (leaf.1, leaf.2.leafHolds descriptor source)

/-- Whether a tree holds of a document, its leaves read as the clauses of one group. -/
def leafwise : Query → Bool
  | .group clauses => groupHolds (leafVerdicts descriptor source (leavesOf clauses))
  | query => query.leafHolds descriptor source

/-! ## The engine query of a tree -/

theorem allHold_eq_all (queries : List TargetQuery) :
    TargetQuery.allHold source queries = queries.all (TargetQuery.holds source) := by
  induction queries with
  | nil => rfl
  | cons query rest ih => simp [TargetQuery.allHold, ih]

theorem anyHolds_eq_any (queries : List TargetQuery) :
    TargetQuery.anyHolds source queries = queries.any (TargetQuery.holds source) := by
  induction queries with
  | nil => rfl
  | cons query rest ih => simp [TargetQuery.anyHolds, ih]

variable {descriptor} {clauses : List Clause} {found : ClauseLists}

theorem all_of_flatten (h : flatten descriptor {} clauses = .ok found) (occur : Occur)
    (known : occur ≠ .unrecognized) :
    (found.of occur).all (TargetQuery.holds source) =
      (leafVerdicts descriptor source (leavesOf clauses)).all fun (own, holds) =>
        own ≠ occur || holds := by
  have hl := congrArg (List.all · fun
    | .ok target => target.holds source
    | .error _ => false) (of_flatten h known)
  simp only [List.all_map, leavesUnder, List.all_filter] at hl
  simp only [leafVerdicts, List.all_map]
  refine Eq.trans hl (List.all_congr rfl fun leaf => ?_)
  by_cases ho : leaf.1 = occur <;> simp [ho, leafHolds]

theorem any_of_flatten (h : flatten descriptor {} clauses = .ok found) (occur : Occur)
    (known : occur ≠ .unrecognized) :
    (found.of occur).any (TargetQuery.holds source) =
      (leafVerdicts descriptor source (leavesOf clauses)).any fun (own, holds) =>
        own = occur && holds := by
  have hl := congrArg (List.any · fun
    | .ok target => target.holds source
    | .error _ => false) (of_flatten h known)
  simp only [List.any_map, leavesUnder, List.any_filter] at hl
  simp only [leafVerdicts, List.any_map]
  refine Eq.trans hl (List.any_congr rfl fun leaf => ?_)
  by_cases ho : leaf.1 = occur <;> simp [ho, leafHolds]

theorem isEmpty_of_flatten (h : flatten descriptor {} clauses = .ok found) (occur : Occur)
    (known : occur ≠ .unrecognized) :
    (found.of occur).isEmpty =
      !(leafVerdicts descriptor source (leavesOf clauses)).any fun (own, _) => own = occur := by
  have hl := congrArg List.isEmpty (of_flatten h known)
  simp only [List.isEmpty_map, leavesUnder] at hl
  rw [hl, Bool.eq_iff_iff]
  simp [leafVerdicts, List.isEmpty_iff, List.filter_eq_nil_iff]

theorem holds_target (found : ClauseLists) :
    found.target.holds source =
      (found.must.all (TargetQuery.holds source) &&
        !found.mustNot.any (TargetQuery.holds source) &&
        (found.should.isEmpty || !found.must.isEmpty ||
          found.should.any (TargetQuery.holds source))) := by
  unfold ClauseLists.target
  split
  · next h =>
    simp only [ClauseLists.isEmpty, Bool.and_eq_true, List.isEmpty_iff] at h
    simp [h, TargetQuery.holds]
  · rw [TargetQuery.holds, allHold_eq_all, anyHolds_eq_any, anyHolds_eq_any]

theorem holds_target_flatten (h : flatten descriptor {} clauses = .ok found) :
    found.target.holds source =
      groupHolds (leafVerdicts descriptor source (leavesOf clauses)) := by
  have hmust := all_of_flatten source h .must (by decide)
  have hnot := any_of_flatten source h .mustNot (by decide)
  have hshould := any_of_flatten source h .should (by decide)
  have emust := isEmpty_of_flatten source h .must (by decide)
  have eshould := isEmpty_of_flatten source h .should (by decide)
  simp only [ClauseLists.of] at hmust hnot hshould emust eshould
  rw [holds_target, hmust, hnot, hshould, emust, eshould, Bool.not_not]
  rfl

/-- **The engine query of a tree holds exactly if its leaves do as clauses of one group.** -/
theorem holds_eq_leafwise {query : Query} {target : TargetQuery}
    (h : query.targetIn descriptor = .ok target) :
    target.holds source = query.leafwise descriptor source := by
  cases query with
  | matchAll => simp [leafwise, leafHolds, h]
  | wildcard field pattern => simp [leafwise, leafHolds, h]
  | verbatim text => simp [leafwise, leafHolds, h]
  | group clauses =>
    have hf : (flatten descriptor {} clauses).map ClauseLists.target = .ok target := h
    cases hc : flatten descriptor {} clauses with
    | error cause => rw [hc] at hf; cases hf
    | ok found =>
      rw [hc] at hf
      cases hf
      exact holds_target_flatten source hc

/-! ## Inner groups that fit in -/

mutual
/-- Whether the members of a tree have occurs that are allowed, for leaves and for inner groups, at
every depth. The occurs of empty groups do not matter. -/
def hasOccurs (leaf group : Occur → Bool) : Query → Bool
  | .group clauses => haveOccurs leaf group clauses
  | _ => true
termination_by structural query => query
/-- Whether members have occurs that are allowed. -/
def haveOccurs (leaf group : Occur → Bool) : List (Occur × Query) → Bool
  | [] => true
  | (occur, query) :: rest =>
    (query.isEmptyGroup ||
      (if query.isGroup then group occur else leaf occur) && hasOccurs leaf group query) &&
      haveOccurs leaf group rest
termination_by structural clauses => clauses
end

/-- Whether a tree has required and excluded leaves in required groups only. -/
def isConjunction (query : Query) : Bool :=
  query.hasOccurs (fun occur => occur = .must || occur = .mustNot) (· = .must)

/-- Whether a tree has optional leaves in optional groups only. -/
def isDisjunction (query : Query) : Bool := query.hasOccurs (· = .should) (· = .should)

/-- Whether a clause may be replaced by its leaves: a leaf, an empty group, a required conjunction
with a required leaf, or an optional disjunction. -/
def fitsIn (occur : Occur) (query : Query) : Bool :=
  !query.isGroup || query.isEmptyGroup ||
    occur = .must && query.isConjunction && (query.leaves .must).any (·.1 = .must) ||
    occur = .should && query.isDisjunction

/-- Whether all members of a group fit in. -/
def innerGroupsFit : Query → Bool
  | .group clauses => clauses.all fun (occur, query) => fitsIn occur query
  | _ => true

variable (descriptor)

theorem verdicts_cons (occur : Occur) (query : Query) (rest : List Clause) :
    verdicts descriptor source ((occur, query) :: rest) =
      (if query.isEmptyGroup then [] else [(occur, query.meaning descriptor source)]) ++
        verdicts descriptor source rest := by
  rw [verdicts]
  split <;> rfl

theorem leafVerdicts_append (leaves others : List Clause) :
    leafVerdicts descriptor source (leaves ++ others) =
      leafVerdicts descriptor source leaves ++ leafVerdicts descriptor source others :=
  List.map_append

theorem leafVerdicts_leaf {query : Query} (h : query.isGroup = false) (occur : Occur) :
    leafVerdicts descriptor source (query.leaves occur) =
      [(occur, query.meaning descriptor source)] := by
  rw [leaves_leaf h]
  cases query <;> first | rfl | cases h

theorem leafVerdicts_empty {query : Query} (h : query.isEmptyGroup = true) (occur : Occur) :
    leafVerdicts descriptor source (query.leaves occur) = [] := by
  rw [(leaves_eq_nil_iff occur query).mpr h]
  rfl

theorem optionHolds_eq_false {verdicts : List (Occur × Bool)}
    (h : hasClause .should verdicts = false) : optionHolds verdicts = false := by
  simp only [hasClause, optionHolds, List.any_eq_false, Bool.and_eq_true] at h ⊢
  exact fun verdict hv hh => h verdict hv hh.1

theorem groupHolds_conjunction {verdicts : List (Occur × Bool)}
    (h : hasClause .should verdicts = false) : groupHolds verdicts = demandsHold verdicts := by
  simp [groupHolds, h]

/-- A conjunction has no optional members, and demands what its leaves demand. -/
theorem verdicts_of_conjunction (clauses : List Clause) :
    haveOccurs (fun occur => occur = .must || occur = .mustNot) (· = .must) clauses = true →
      hasClause .should (verdicts descriptor source clauses) = false ∧
        hasClause .should (leafVerdicts descriptor source (leavesOf clauses)) = false ∧
        demandsHold (verdicts descriptor source clauses) =
          demandsHold (leafVerdicts descriptor source (leavesOf clauses)) := by
  induction clauses using clauses_induction with
  | nil => exact fun _ => ⟨rfl, rfl, rfl⟩
  | leaf occur query rest h ih =>
    intro hc
    have he := isEmptyGroup_leaf h
    simp only [haveOccurs, h, he, Bool.false_or, Bool.and_eq_true] at hc
    obtain ⟨⟨ho, -⟩, hr⟩ := hc
    obtain ⟨hs, hl, hd⟩ := ih hr
    have hne : occur ≠ .should := by
      rintro rfl
      cases ho
    rw [verdicts_cons, leavesOf_cons, leafVerdicts_append, leafVerdicts_leaf _ _ h, he,
      hasClause_append, hasClause_append, demandsHold_append, demandsHold_append, hs, hl, hd]
    exact ⟨by simp [hasClause, hne], by simp [hasClause, hne], rfl⟩
  | group occur inner rest ihInner ih =>
    intro hc
    rw [haveOccurs, Bool.and_eq_true] at hc
    obtain ⟨hc, hr⟩ := hc
    obtain ⟨hs, hl, hd⟩ := ih hr
    rw [verdicts_cons, leavesOf_cons, leafVerdicts_append, hasClause_append, hasClause_append,
      demandsHold_append, demandsHold_append, hs, hl, hd]
    by_cases he : (Query.group inner).isEmptyGroup = true
    · rw [leafVerdicts_empty _ _ he, he]
      exact ⟨rfl, rfl, rfl⟩
    · simp only [Bool.not_eq_true] at he
      simp only [he, isGroup, Bool.false_or, if_true, Bool.and_eq_true, decide_eq_true_eq] at hc
      obtain ⟨rfl, hi⟩ := hc
      obtain ⟨hsi, hli, hdi⟩ := ihInner hi
      rw [he, leaves_group, meaning, groupHolds_conjunction hsi, hdi, hli]
      exact ⟨rfl, rfl, by simp [demandsHold]⟩

/-- Optional clauses demand nothing, and if there are any, one of them has to hold. -/
theorem only_optional {verdicts : List (Occur × Bool)}
    (h : ∀ verdict ∈ verdicts, verdict.1 = .should) (nonempty : verdicts ≠ []) :
    demandsHold verdicts = true ∧ hasClause .must verdicts = false ∧
      hasClause .should verdicts = true := by
  obtain ⟨verdict, hv⟩ := List.exists_mem_of_ne_nil _ nonempty
  refine ⟨?_, List.any_eq_false.mpr fun v hv => by simp [h v hv],
    List.any_eq_true.mpr ⟨verdict, hv, by simp [h verdict hv]⟩⟩
  simp only [demandsHold, Bool.and_eq_true, List.all_eq_true, Bool.not_eq_true',
    List.any_eq_false]
  exact ⟨fun v hv => by simp [h v hv], fun v hv => by simp [h v hv]⟩

theorem groupHolds_disjunction {verdicts : List (Occur × Bool)}
    (h : ∀ verdict ∈ verdicts, verdict.1 = .should) (nonempty : verdicts ≠ []) :
    groupHolds verdicts = optionHolds verdicts := by
  obtain ⟨hd, hm, hs⟩ := only_optional h nonempty
  simp [groupHolds, hd, hs, hm]

theorem verdicts_ne_nil {clauses : List Clause} (h : allEmpty clauses = false) :
    verdicts descriptor source clauses ≠ [] := by
  induction clauses with
  | nil => cases h
  | cons clause rest ih =>
    obtain ⟨occur, query⟩ := clause
    rw [verdicts_cons]
    by_cases he : query.isEmptyGroup = true
    · rw [allEmpty, he, Bool.true_and] at h
      rw [he]
      exact ih h
    · simp [he]

/-- A disjunction has optional members only, one of which holds exactly if one of its leaves
does. -/
theorem verdicts_of_disjunction (clauses : List Clause) :
    haveOccurs (· = .should) (· = .should) clauses = true →
      (∀ verdict ∈ verdicts descriptor source clauses, verdict.1 = .should) ∧
        (∀ verdict ∈ leafVerdicts descriptor source (leavesOf clauses), verdict.1 = .should) ∧
        optionHolds (verdicts descriptor source clauses) =
          optionHolds (leafVerdicts descriptor source (leavesOf clauses)) := by
  induction clauses using clauses_induction with
  | nil => exact fun _ => ⟨nofun, nofun, rfl⟩
  | leaf occur query rest h ih =>
    intro hc
    have he := isEmptyGroup_leaf h
    simp only [haveOccurs, h, he, Bool.false_or, Bool.and_eq_true] at hc
    obtain ⟨⟨ho, -⟩, hr⟩ := hc
    simp only [Bool.false_eq_true, if_false, decide_eq_true_eq] at ho
    obtain ⟨hv, hl, hd⟩ := ih hr
    rw [verdicts_cons, leavesOf_cons, leafVerdicts_append, leafVerdicts_leaf _ _ h, he,
      optionHolds_append, optionHolds_append, hd]
    exact ⟨List.forall_mem_append.mpr ⟨by simp [ho], hv⟩,
      List.forall_mem_append.mpr ⟨by simp [ho], hl⟩, rfl⟩
  | group occur inner rest ihInner ih =>
    intro hc
    rw [haveOccurs, Bool.and_eq_true] at hc
    obtain ⟨hc, hr⟩ := hc
    obtain ⟨hv, hl, hd⟩ := ih hr
    rw [verdicts_cons, leavesOf_cons, leafVerdicts_append, optionHolds_append,
      optionHolds_append, hd]
    by_cases he : (Query.group inner).isEmptyGroup = true
    · rw [leafVerdicts_empty _ _ he, he]
      exact ⟨hv, hl, rfl⟩
    · simp only [Bool.not_eq_true] at he
      simp only [he, isGroup, Bool.false_or, if_true, Bool.and_eq_true, decide_eq_true_eq] at hc
      obtain ⟨rfl, hi⟩ := hc
      obtain ⟨hvi, hli, hdi⟩ := ihInner hi
      have hg := groupHolds_disjunction hvi (verdicts_ne_nil descriptor source he)
      rw [he, leaves_group, meaning, hg, hdi]
      exact ⟨List.forall_mem_append.mpr ⟨by simp, hv⟩, List.forall_mem_append.mpr ⟨hli, hl⟩,
        by simp [optionHolds]⟩

/-! ## The two readings agree -/

/-- Two lists of verdicts that a group cannot tell apart, in whatever company. -/
structure Alike (verdicts others : List (Occur × Bool)) : Prop where
  demands : demandsHold verdicts = demandsHold others
  options : optionHolds verdicts = optionHolds others
  required : hasClause .must verdicts = hasClause .must others
  optional : hasClause .should verdicts = hasClause .should others

theorem Alike.append {v w v' w' : List (Occur × Bool)} (h : Alike v w) (h' : Alike v' w') :
    Alike (v ++ v') (w ++ w') where
  demands := by rw [demandsHold_append, demandsHold_append, h.demands, h'.demands]
  options := by rw [optionHolds_append, optionHolds_append, h.options, h'.options]
  required := by rw [hasClause_append, hasClause_append, h.required, h'.required]
  optional := by rw [hasClause_append, hasClause_append, h.optional, h'.optional]

theorem Alike.groupHolds_eq {v w : List (Occur × Bool)} (h : Alike v w) :
    groupHolds v = groupHolds w := by
  unfold groupHolds
  rw [h.demands, h.options, h.required, h.optional]

/-- **A clause that fits in counts for its group as its leaves do.** -/
theorem alike_of_fitsIn {occur : Occur} {query : Query} (h : fitsIn occur query = true) :
    Alike (if query.isEmptyGroup then [] else [(occur, query.meaning descriptor source)])
      (leafVerdicts descriptor source (query.leaves occur)) := by
  by_cases he : query.isEmptyGroup = true
  · rw [leafVerdicts_empty _ _ he, he]
    exact ⟨rfl, rfl, rfl, rfl⟩
  simp only [Bool.not_eq_true] at he
  by_cases hg : query.isGroup = true
  swap
  · simp only [Bool.not_eq_true] at hg
    rw [leafVerdicts_leaf _ _ hg, he]
    exact ⟨rfl, rfl, rfl, rfl⟩
  cases query with
  | matchAll => cases hg
  | wildcard field pattern => cases hg
  | verbatim text => cases hg
  | group inner =>
    rw [he, leaves_group, meaning]
    simp only [fitsIn, isGroup, he, Bool.not_true, Bool.false_or, Bool.or_eq_true,
      Bool.and_eq_true, decide_eq_true_eq] at h
    rcases h with ⟨⟨rfl, hc⟩, hm⟩ | ⟨rfl, hd⟩
    · obtain ⟨hs, hl, hdem⟩ := verdicts_of_conjunction descriptor source inner hc
      rw [groupHolds_conjunction hs, hdem]
      refine ⟨by simp [demandsHold], ?_, ?_, by rw [hl]; rfl⟩
      · rw [optionHolds_eq_false hl]
        rfl
      · simp only [leaves_group, List.any_eq_true, decide_eq_true_eq] at hm
        obtain ⟨leaf, hleaf, ho⟩ := hm
        refine Eq.symm (List.any_eq_true.mpr ⟨(leaf.1, leaf.2.leafHolds descriptor source),
          List.mem_map_of_mem hleaf, by simp [ho]⟩)
    · obtain ⟨hv, hl, ho⟩ := verdicts_of_disjunction descriptor source inner hd
      have hne : leafVerdicts descriptor source (leavesOf inner) ≠ [] := by
        intro hn
        rw [leafVerdicts, List.map_eq_nil_iff, leavesOf_eq_nil_iff] at hn
        rw [isEmptyGroup, hn] at he
        cases he
      obtain ⟨hdem, hmust, hshould⟩ := only_optional hl hne
      rw [groupHolds_disjunction hv (verdicts_ne_nil descriptor source he), ho]
      exact ⟨by rw [hdem]; rfl, by simp [optionHolds], by rw [hmust]; rfl, by rw [hshould]; rfl⟩

theorem alike_verdicts {clauses : List Clause}
    (h : ∀ clause ∈ clauses, fitsIn clause.1 clause.2 = true) :
    Alike (verdicts descriptor source clauses)
      (leafVerdicts descriptor source (leavesOf clauses)) := by
  induction clauses with
  | nil => exact ⟨rfl, rfl, rfl, rfl⟩
  | cons clause rest ih =>
    obtain ⟨occur, query⟩ := clause
    rw [verdicts_cons, leavesOf_cons, leafVerdicts_append]
    exact (alike_of_fitsIn descriptor source (h _ List.mem_cons_self)).append
      (ih fun clause hc => h clause (List.mem_cons_of_mem _ hc))

/-- If all inner groups fit in, the two readings of a tree are the same. -/
theorem meaning_eq_leafwise {query : Query} (h : query.innerGroupsFit = true) :
    query.meaning descriptor source = query.leafwise descriptor source := by
  cases query with
  | matchAll => rfl
  | wildcard field pattern => rfl
  | verbatim text => rfl
  | group clauses =>
    rw [innerGroupsFit, List.all_eq_true] at h
    exact (alike_verdicts descriptor source h).groupHolds_eq

/-! ## Main results -/

/-- A descriptor without fields. -/
def bareDescriptor : Descriptor := { entityType := "a", indexName := "a", idField := "id" }

/-- **What the engine query of a tree means.** It holds of a document exactly if the leaves of the
tree hold as the clauses of one group, each under its own occur; and if all inner groups fit in,
exactly if the tree holds with every group read by itself. -/
theorem holds_targetIn {query : Query} {target : TargetQuery}
    (h : query.targetIn descriptor = .ok target) :
    target.holds source = query.leafwise descriptor source ∧
      (query.innerGroupsFit = true → target.holds source = query.meaning descriptor source) := by
  have hl := holds_eq_leafwise source h
  exact ⟨hl, fun hf => hl.trans (meaning_eq_leafwise descriptor source hf).symm⟩

/-- Two trees with an inner group: an excluded one that requires every document counts as if it were
required, and a required one fits in. -/
theorem holds_targetIn_inner_groups :
    ((Query.group [(.mustNot, .group [(.must, .matchAll)])]).targetIn bareDescriptor =
        .ok (.bool [.matchAll] [] []) ∧
      (TargetQuery.bool [.matchAll] [] []).holds [] = true) ∧
    (Query.group [(.must, .group [(.must, .matchAll), (.mustNot, .matchAll)])]).targetIn
        bareDescriptor = .ok (.bool [.matchAll] [.matchAll] []) ∧
      (TargetQuery.bool [.matchAll] [.matchAll] []).holds [] =
        (Query.group [(.must, .group [(.must, .matchAll), (.mustNot, .matchAll)])]).meaning
          bareDescriptor [] := by
  have excluded : (Query.group [(.mustNot, .group [(.must, .matchAll)])]).targetIn bareDescriptor =
      .ok (.bool [.matchAll] [] []) := rfl
  have required : (Query.group [(.must, .group [(.must, .matchAll), (.mustNot, .matchAll)])]).targetIn
      bareDescriptor = .ok (.bool [.matchAll] [.matchAll] []) := rfl
  exact ⟨⟨excluded, (holds_targetIn bareDescriptor [] excluded).1.trans rfl⟩,
    required, (holds_targetIn bareDescriptor [] required).2 rfl⟩

/-- The engine query of a tree need not hold when the tree does with every group read by itself: an
excluded inner group counts by the occurs inside of it. -/
theorem not_holds_iff_meaning :
    ¬ ∀ (descriptor : Descriptor) (query : Query) (target : TargetQuery) (source : Fields),
      query.targetIn descriptor = .ok target →
        target.holds source = query.meaning descriptor source := by
  intro h
  have hm := h bareDescriptor (.group [(.mustNot, .group [(.must, .matchAll)])])
    (.bool [.matchAll] [] []) [] rfl
  exact absurd hm (by decide)

end Query

end EntitySearch

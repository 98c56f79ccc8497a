import EntitySearch.Proofs.Query.Leaves

/-!
# Malformed query trees

A tree can be malformed in two ways: a wildcard names a field that the entity type does not
declare, or a clause has an occur without a meaning. Both can stand at any depth. A tree has an
engine query exactly if its leaves are sound (`targetIn_eq_ok_iff`), so a malformed leaf is found
however deep it is; the occur of a clause that holds an inner group is not looked at, neither for
an empty group, which counts for nothing, nor for any other.

* `Query.Part`: the parts of a tree, at every depth.
* `Query.Meaningful`: what a tree must be like, up to the clauses whose occur may be anything.
* `mem_leavesOf_iff`: the leaves of a group are its clauses at any depth that hold no group.
* `Rejects`: that a result fails because of malformed input only; `rejects_targetFor`.
* `targetFor_ok_iff`: the trees that have an engine query, and the errors of the others.
* `not_targetFor_ok_iff_nonempty`: an inner group that is not empty may have any occur, too.
-/

namespace EntitySearch

namespace Query

/-- The parts of a tree: the tree itself, and the parts of its members if it is a group. -/
inductive Part (part : Query) : Query → Prop
  | self : Part part part
  | member {occur : Occur} {query : Query} {clauses : List Clause} :
    (occur, query) ∈ clauses → Part part query → Part part (.group clauses)

/-- Some group in a tree, at any depth, has the clause. -/
def HasClause (clause : Clause) (query : Query) : Prop :=
  ∃ clauses, Part (.group clauses) query ∧ clause ∈ clauses

/-- Every wildcard in a tree names a declared field, and every clause has a recognized occur, apart
from those that hold a spared tree. -/
structure Meaningful (descriptor : Descriptor) (spared : Query → Bool) (query : Query) : Prop where
  declared : ∀ name pattern, Part (.wildcard name pattern) query →
    ∃ field ∈ descriptor.fields, field.name = name
  recognized : ∀ occur node, HasClause (occur, node) query → spared node = false →
    occur ≠ .unrecognized

/-! ## The clauses of a tree -/

theorem Part.eq_of_leaf {part query : Query} (h : query.isGroup = false) (hp : Part part query) :
    part = query := by
  cases hp with
  | self => rfl
  | member _ _ => cases h

theorem not_hasClause_leaf {clause : Clause} {query : Query} (h : query.isGroup = false) :
    ¬ HasClause clause query := by
  rintro ⟨clauses, hp, _⟩
  rw [← hp.eq_of_leaf h] at h
  cases h

theorem not_hasClause_nil (clause : Clause) : ¬ HasClause clause (.group []) := by
  rintro ⟨clauses, hp, hc⟩
  cases hp with
  | self => cases hc
  | member hm _ => cases hm

theorem hasClause_cons {clause : Clause} {occur : Occur} {query : Query} {rest : List Clause} :
    HasClause clause (.group ((occur, query) :: rest)) ↔
      clause = (occur, query) ∨ HasClause clause query ∨ HasClause clause (.group rest) := by
  constructor
  · rintro ⟨clauses, hp, hc⟩
    cases hp with
    | self =>
      rcases List.mem_cons.mp hc with rfl | hc
      · exact .inl rfl
      · exact .inr (.inr ⟨rest, .self, hc⟩)
    | member hm hp =>
      rcases List.mem_cons.mp hm with he | hm
      · cases he
        exact .inr (.inl ⟨clauses, hp, hc⟩)
      · exact .inr (.inr ⟨clauses, .member hm hp, hc⟩)
  · rintro (rfl | ⟨clauses, hp, hc⟩ | ⟨clauses, hp, hc⟩)
    · exact ⟨_, .self, List.mem_cons_self⟩
    · exact ⟨clauses, .member List.mem_cons_self hp, hc⟩
    · cases hp with
      | self => exact ⟨_, .self, List.mem_cons_of_mem _ hc⟩
      | member hm hp => exact ⟨clauses, .member (List.mem_cons_of_mem _ hm) hp, hc⟩

/-- **The leaves of a group** are its clauses, at any depth, that do not hold a group. -/
theorem mem_leavesOf_iff {leaf : Clause} (clauses : List Clause) :
    leaf ∈ leavesOf clauses ↔ leaf.2.isGroup = false ∧ HasClause leaf (.group clauses) := by
  induction clauses using clauses_induction with
  | nil => simp [leavesOf, not_hasClause_nil]
  | leaf occur query rest h ih =>
    rw [leavesOf_cons, leaves_leaf h, List.singleton_append, List.mem_cons, ih, hasClause_cons]
    constructor
    · rintro (rfl | ⟨hl, hc⟩)
      · exact ⟨h, .inl rfl⟩
      · exact ⟨hl, .inr (.inr hc)⟩
    · rintro ⟨hl, hc | hc | hc⟩
      · exact .inl hc
      · exact absurd hc (not_hasClause_leaf h)
      · exact .inr ⟨hl, hc⟩
  | group occur inner rest ihInner ih =>
    rw [leavesOf_cons, leaves_group, List.mem_append, ihInner, ih, hasClause_cons]
    constructor
    · rintro (⟨hl, hc⟩ | ⟨hl, hc⟩)
      · exact ⟨hl, .inr (.inl hc)⟩
      · exact ⟨hl, .inr (.inr hc)⟩
    · rintro ⟨hl, rfl | hc | hc⟩
      · cases hl
      · exact .inl ⟨hl, hc⟩
      · exact .inr ⟨hl, hc⟩

theorem Part.exists_hasClause {part query : Query} (hl : part.isGroup = false)
    (h : Part part query) : query.isGroup = false ∨ ∃ occur, HasClause (occur, part) query := by
  induction h with
  | self => exact .inl hl
  | @member occur query clauses hm hp ih =>
    refine .inr ?_
    rcases ih with hq | ⟨own, inner, hi, hc⟩
    · rw [hp.eq_of_leaf hq]
      exact ⟨occur, clauses, .self, hm⟩
    · exact ⟨own, inner, .member hm hi, hc⟩

theorem HasClause.part {occur : Occur} {node query : Query} (h : HasClause (occur, node) query) :
    Part node query := by
  obtain ⟨clauses, hp, hc⟩ := h
  induction hp with
  | self => exact .member hc .self
  | member hm _ ih => exact .member hm ih

/-! ## The trees that have an engine query -/

end Query

theorem Descriptor.field?_eq_ok_iff (descriptor : Descriptor) (name : String) :
    (∃ field, descriptor.field? name = .ok field) ↔
      ∃ field ∈ descriptor.fields, field.name = name := by
  unfold field?
  cases hf : descriptor.fields.find? fun field => field.name = name with
  | none =>
    have absent := List.find?_eq_none.mp hf
    refine iff_of_false (fun ⟨_, h⟩ => by cases h) ?_
    rintro ⟨field, hm, hn⟩
    exact absent field hm (decide_eq_true hn)
  | some field =>
    have hn := List.find?_some hf
    exact iff_of_true ⟨field, rfl⟩ ⟨field, List.mem_of_find?_eq_some hf, of_decide_eq_true hn⟩

namespace Query

variable {descriptor : Descriptor}

theorem wildcardTarget_eq_ok_iff (name pattern : String) :
    (∃ target, wildcardTarget descriptor name pattern = .ok target) ↔
      ∃ field ∈ descriptor.fields, field.name = name := by
  rw [← descriptor.field?_eq_ok_iff]
  unfold wildcardTarget
  cases descriptor.field? name with
  | error unknown => simp
  | ok field => by_cases ha : field.analyzed = true <;> simp [ha]

theorem gather_eq_ok_iff (found : ClauseLists) (leaf : Clause) :
    (∃ found', gather descriptor found leaf = .ok found') ↔
      (∃ target, leaf.2.targetIn descriptor = .ok target) ∧ leaf.1 ≠ .unrecognized := by
  unfold gather
  cases ht : leaf.2.targetIn descriptor with
  | error cause => simp [bind, Except.bind]
  | ok target =>
    simp only [bind, Except.bind]
    cases leaf.1 <;> simp [ClauseLists.add?]

theorem foldlM_gather_eq_ok_iff (leaves : List Clause) (found : ClauseLists) :
    (∃ found', leaves.foldlM (gather descriptor) found = .ok found') ↔
      ∀ leaf ∈ leaves,
        (∃ target, leaf.2.targetIn descriptor = .ok target) ∧ leaf.1 ≠ .unrecognized := by
  induction leaves generalizing found with
  | nil => simp [pure, Except.pure]
  | cons leaf rest ih =>
    rw [List.foldlM_cons, List.forall_mem_cons, ← gather_eq_ok_iff found leaf]
    cases gather descriptor found leaf with
    | error cause => simp [bind, Except.bind]
    | ok next => simpa [bind, Except.bind] using ih next

theorem targetIn_group_eq_ok_iff (clauses : List Clause) :
    (∃ target, (Query.group clauses).targetIn descriptor = .ok target) ↔
      ∀ leaf ∈ leavesOf clauses,
        (∃ target, leaf.2.targetIn descriptor = .ok target) ∧ leaf.1 ≠ .unrecognized := by
  rw [← foldlM_gather_eq_ok_iff _ {}, ← flatten_eq_foldlM, targetIn]
  cases flatten descriptor {} clauses <;> simp [Except.map]

theorem targetIn_leaf_eq_ok_iff {query : Query} (h : query.isGroup = false) :
    (∃ target, query.targetIn descriptor = .ok target) ↔
      ∀ name pattern, query = .wildcard name pattern →
        ∃ field ∈ descriptor.fields, field.name = name := by
  cases query with
  | group clauses => cases h
  | matchAll => exact iff_of_true ⟨_, rfl⟩ nofun
  | verbatim text => exact iff_of_true ⟨_, rfl⟩ nofun
  | wildcard own pattern =>
    refine (wildcardTarget_eq_ok_iff own pattern).trans ⟨?_, fun hd => hd own pattern rfl⟩
    rintro hd name pattern ⟨⟩
    exact hd

/-- **A tree has an engine query** exactly if its wildcards are on declared fields and its clauses
have recognized occurs, except that those of inner groups do not matter. -/
theorem targetIn_eq_ok_iff (query : Query) :
    (∃ target, query.targetIn descriptor = .ok target) ↔
      query.Meaningful descriptor isGroup := by
  cases hq : query.isGroup with
  | false =>
    refine (targetIn_leaf_eq_ok_iff hq).trans ⟨fun hd => ⟨?_, ?_⟩, ?_⟩
    · exact fun name pattern hp => hd name pattern (hp.eq_of_leaf hq).symm
    · exact fun _ _ hc _ => absurd hc (not_hasClause_leaf hq)
    · rintro hm name pattern rfl
      exact hm.declared name pattern .self
  | true =>
    cases query with
    | matchAll => cases hq
    | verbatim text => cases hq
    | wildcard name pattern => cases hq
    | group clauses =>
      refine (targetIn_group_eq_ok_iff clauses).trans ⟨fun hl => ⟨?_, ?_⟩, fun hm leaf hl => ?_⟩
      · intro name pattern hp
        obtain hg | ⟨occur, hc⟩ := hp.exists_hasClause rfl
        · cases hg
        · have hw := (hl _ ((mem_leavesOf_iff clauses).mpr ⟨rfl, hc⟩)).1
          exact (wildcardTarget_eq_ok_iff name pattern).mp hw
      · intro occur node hc hn
        exact (hl _ ((mem_leavesOf_iff clauses).mpr ⟨hn, hc⟩)).2
      · obtain ⟨hn, hc⟩ := (mem_leavesOf_iff clauses).mp hl
        refine ⟨(targetIn_leaf_eq_ok_iff hn).mpr ?_, hm.recognized leaf.1 leaf.2 hc hn⟩
        intro name pattern hw
        exact hm.declared name pattern (hw ▸ hc.part)

/-! ## The errors of the other trees -/

end Query

/-- The errors that malformed input is answered with: the schema does not know a name, or the query
tree has no meaning. -/
def BridgeError.IsRejection : BridgeError → Prop
  | .schema _ | .meaningless _ => True
  | _ => False

/-- Whether a result can only fail because the input is malformed. -/
def Rejects {α : Type} (result : Except BridgeError α) : Prop :=
  ∀ cause, result = .error cause → cause.IsRejection

namespace Rejects

variable {α β : Type} {result : Except BridgeError α}

theorem ok (value : α) : Rejects (.ok value) := nofun

theorem error {cause : BridgeError} (h : cause.IsRejection) :
    Rejects (.error cause : Except BridgeError α) := by
  rintro _ ⟨⟩
  exact h

theorem bind {f : α → Except BridgeError β} (h : Rejects result)
    (rest : ∀ value, Rejects (f value)) : Rejects (result >>= f) := by
  cases result with
  | ok value => exact rest value
  | error cause => exact error (h cause rfl)

theorem map {f : α → β} (h : Rejects result) : Rejects (result.map f) :=
  h.bind fun value => ok (f value)

end Rejects

namespace Query

theorem rejects_wildcardTarget (descriptor : Descriptor) (name pattern : String) :
    Rejects (wildcardTarget descriptor name pattern) := by
  unfold wildcardTarget
  split
  · exact .error trivial
  · split <;> exact .ok _

theorem rejects_of_leaf (descriptor : Descriptor) {query : Query} (h : query.isGroup = false) :
    Rejects (query.targetIn descriptor) := by
  cases query with
  | group clauses => cases h
  | matchAll => exact .ok _
  | wildcard field pattern => exact rejects_wildcardTarget descriptor field pattern
  | verbatim text => exact .ok _

/-- A group is rejected because of a leaf: the leaf itself is, or its occur has no meaning. -/
theorem rejects_flatten (descriptor : Descriptor) (clauses : List Clause) :
    ∀ found, Rejects (flatten descriptor found clauses) := by
  induction clauses using clauses_induction with
  | nil => exact fun found => .ok found
  | leaf occur query rest h ih =>
    intro found
    rw [flatten_leaf descriptor h]
    refine Rejects.bind ((rejects_of_leaf descriptor h).bind fun target => ?_) ih
    cases found.add? target occur with
    | none => exact .error trivial
    | some next => exact .ok next
  | group occur inner rest ihInner ih =>
    intro found
    rw [flatten_group]
    exact (ihInner found).bind ih

theorem rejects_targetIn (descriptor : Descriptor) (query : Query) :
    Rejects (query.targetIn descriptor) := by
  cases query with
  | group clauses => exact (rejects_flatten descriptor clauses {}).map
  | _ => exact rejects_of_leaf descriptor rfl

end Query

theorem rejects_targetFor (resolver : Resolver) (query : Query) (entity : String) :
    Rejects (targetFor resolver query entity) := by
  unfold targetFor
  split
  · exact .error trivial
  · exact Query.rejects_targetIn _ query

/-! ## Main results -/

/-- **Which trees have an engine query.** For every source of schema information, entity type and
tree: exactly if the entity type is known, every wildcard at any depth names a declared field, and
every clause at any depth that does not hold a group has a recognized occur. All other trees are
answered with an error of the schema or about the tree. -/
theorem targetFor_ok_iff (resolver : Resolver) (query : Query) (entity : String) :
    ((∃ target, targetFor resolver query entity = .ok target) ↔
      ∃ descriptor, resolver.descriptor entity = .ok descriptor ∧
        query.Meaningful descriptor Query.isGroup) ∧
    ((∃ target, targetFor resolver query entity = .ok target) ∨
      ∃ cause, targetFor resolver query entity = .error cause ∧ cause.IsRejection) := by
  refine ⟨?_, ?_⟩
  · unfold targetFor
    cases hd : resolver.descriptor entity with
    | error unknown => exact iff_of_false (fun ⟨_, h⟩ => by cases h) (fun ⟨_, h, _⟩ => by cases h)
    | ok descriptor =>
      refine (Query.targetIn_eq_ok_iff query).trans ⟨fun h => ⟨descriptor, rfl, h⟩, ?_⟩
      rintro ⟨_, ⟨⟩, h⟩
      exact h
  · cases ht : targetFor resolver query entity with
    | ok target => exact .inl ⟨target, rfl⟩
    | error cause => exact .inr ⟨cause, rfl, rejects_targetFor resolver query entity cause ht⟩

/-- A schema with one entity type, which has no fields. -/
def fieldlessResolver : Resolver :=
  { descriptor := fun entity => .ok { entityType := entity, indexName := "a", idField := "id" }
    entityTypes := ["a"] }

/-- A required match-all query in an inner group whose own occur has no meaning. -/
def strayGroup : Query := .group [(.unrecognized, .group [(.must, .matchAll)])]

/-- The occur of an inner group that is not empty has no meaning either, and the tree still has an
engine query. -/
theorem not_targetFor_ok_iff_nonempty :
    ¬ ∀ (resolver : Resolver) (query : Query) (entity : String),
      (∃ target, targetFor resolver query entity = .ok target) ↔
        ∃ descriptor, resolver.descriptor entity = .ok descriptor ∧
          query.Meaningful descriptor Query.isEmptyGroup := by
  intro h
  have found : targetFor fieldlessResolver strayGroup "a" = .ok (.bool [.matchAll] [] []) := rfl
  obtain ⟨descriptor, _, hm⟩ := (h fieldlessResolver strayGroup "a").mp ⟨_, found⟩
  exact hm.recognized .unrecognized (.group [(.must, .matchAll)])
    ⟨_, .self, List.mem_cons_self⟩ (by decide) rfl

end EntitySearch

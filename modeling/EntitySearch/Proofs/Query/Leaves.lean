import EntitySearch.Query.Targeting
import Mathlib.Tactic.Common

/-!
# The leaves of a query tree

Read from left to right, the leaves of a group are the wildcards, texts and match-all queries at
every depth below it, each with the occur of its own clause; the occurs of the clauses that hold
inner groups are forgotten. The engine query of a group depends on its leaves only.

* `clauses_induction`: induction on the clauses of a group, through the groups inside of it.
* `flatten_eq_foldlM`: the clause lists of a group are gathered leaf by leaf.
* `of_flatten`: the list of an occur holds the engine queries of the leaves of that occur, in
  their order.
* `leavesOf_eq_nil_iff`: exactly the empty groups have no leaves.
-/

namespace EntitySearch.Query

mutual
/-- The leaves of a clause. -/
def leaves (occur : Occur) : Query → List Clause
  | .group clauses => leavesOf clauses
  | query => [(occur, query)]
termination_by structural query => query
/-- The leaves of the clauses of a group. -/
def leavesOf : List (Occur × Query) → List Clause
  | [] => []
  | (occur, query) :: rest => query.leaves occur ++ leavesOf rest
termination_by structural clauses => clauses
end

/-- Induction on the clauses of a group, through the groups inside of it. -/
@[elab_as_elim]
theorem clauses_induction {motive : List Clause → Prop} (nil : motive [])
    (leaf : ∀ occur query rest, query.isGroup = false → motive rest →
      motive ((occur, query) :: rest))
    (group : ∀ occur inner rest, motive inner → motive rest →
      motive ((occur, .group inner) :: rest)) : ∀ clauses, motive clauses
  | [] => nil
  | (occur, .group inner) :: rest =>
    group occur inner rest (clauses_induction nil leaf group inner)
      (clauses_induction nil leaf group rest)
  | (occur, .matchAll) :: rest =>
    leaf occur .matchAll rest rfl (clauses_induction nil leaf group rest)
  | (occur, .wildcard field pattern) :: rest =>
    leaf occur (.wildcard field pattern) rest rfl (clauses_induction nil leaf group rest)
  | (occur, .verbatim text) :: rest =>
    leaf occur (.verbatim text) rest rfl (clauses_induction nil leaf group rest)

theorem leaves_group (occur : Occur) (clauses : List Clause) :
    (Query.group clauses).leaves occur = leavesOf clauses := rfl

theorem leaves_leaf {query : Query} (h : query.isGroup = false) (occur : Occur) :
    query.leaves occur = [(occur, query)] := by
  cases query <;> first | rfl | cases h

theorem isEmptyGroup_leaf {query : Query} (h : query.isGroup = false) :
    query.isEmptyGroup = false := by
  cases query <;> first | rfl | cases h

theorem leavesOf_cons (occur : Occur) (query : Query) (rest : List Clause) :
    leavesOf ((occur, query) :: rest) = query.leaves occur ++ leavesOf rest := rfl

/-! ## Gathering -/

/-- Adds the engine query of a leaf to the list of its occur. -/
def gather (descriptor : Descriptor) (found : ClauseLists) (leaf : Clause) :
    Except BridgeError ClauseLists := do
  let target ← leaf.2.targetIn descriptor
  match found.add? target leaf.1 with
  | some found => .ok found
  | none => .error (unrecognizedClause leaf.2)

/-- A leaf at the head of a group is gathered before the rest. -/
theorem flatten_leaf (descriptor : Descriptor) {query : Query} (h : query.isGroup = false)
    (occur : Occur) (found : ClauseLists) (rest : List Clause) :
    flatten descriptor found ((occur, query) :: rest) =
      gather descriptor found (occur, query) >>= fun found => flatten descriptor found rest := by
  have step : flatten descriptor found ((occur, query) :: rest) = (do
      let target ← query.targetIn descriptor
      match found.add? target occur with
      | some found => flatten descriptor found rest
      | none => .error (unrecognizedClause query)) := by
    cases query with
    | group clauses => cases h
    | matchAll => rfl
    | wildcard field pattern => rfl
    | verbatim text => rfl
  rw [step]
  unfold gather
  cases query.targetIn descriptor with
  | error cause => rfl
  | ok target =>
    simp only [bind, Except.bind]
    cases found.add? target occur <;> rfl

theorem flatten_group (descriptor : Descriptor) (occur : Occur) (inner : List Clause)
    (found : ClauseLists) (rest : List Clause) :
    flatten descriptor found ((occur, .group inner) :: rest) =
      flatten descriptor found inner >>= fun found => flatten descriptor found rest := rfl

/-- **The clause lists of a group are gathered leaf by leaf**, whatever groups the leaves are in. -/
theorem flatten_eq_foldlM (descriptor : Descriptor) (clauses : List Clause)
    (found : ClauseLists) :
    flatten descriptor found clauses = (leavesOf clauses).foldlM (gather descriptor) found := by
  induction clauses using clauses_induction generalizing found with
  | nil => rfl
  | leaf occur query rest h ih =>
    rw [flatten_leaf descriptor h, leavesOf_cons, leaves_leaf h, List.singleton_append,
      List.foldlM_cons]
    exact bind_congr ih
  | group occur inner rest ihInner ih =>
    rw [flatten_group, ihInner, leavesOf_cons, leaves_group, List.foldlM_append]
    exact bind_congr ih

end Query

/-! ## The list of an occur -/

/-- The list of an occur. -/
def ClauseLists.of (found : ClauseLists) : Occur → List TargetQuery
  | .must => found.must
  | .mustNot => found.mustNot
  | .should => found.should
  | .unrecognized => []

theorem ClauseLists.of_add {found found' : ClauseLists} {target : TargetQuery} {own : Occur}
    (h : found.add? target own = some found') {occur : Occur} (known : occur ≠ .unrecognized) :
    found'.of occur = found.of occur ++ if own = occur then [target] else [] := by
  cases own <;> cases h <;> cases occur <;> simp_all [ClauseLists.of]

namespace Query

theorem gather_eq_ok {descriptor : Descriptor} {found found' : ClauseLists} {leaf : Clause}
    (h : gather descriptor found leaf = .ok found') :
    ∃ target, leaf.2.targetIn descriptor = .ok target ∧
      found.add? target leaf.1 = some found' := by
  unfold gather at h
  cases ht : leaf.2.targetIn descriptor with
  | error cause => rw [ht] at h; cases h
  | ok target =>
    rw [ht] at h
    simp only [bind, Except.bind] at h
    refine ⟨target, rfl, ?_⟩
    cases ha : found.add? target leaf.1 with
    | none => rw [ha] at h; cases h
    | some next => rw [ha] at h; cases h; rfl

/-- The leaves of an occur. -/
def leavesUnder (occur : Occur) (leaves : List Clause) : List Clause :=
  leaves.filter fun leaf => leaf.1 = occur

theorem leavesUnder_cons (occur : Occur) (leaf : Clause) (leaves : List Clause) :
    leavesUnder occur (leaf :: leaves) =
      (if leaf.1 = occur then [leaf] else []) ++ leavesUnder occur leaves := by
  unfold leavesUnder
  rw [List.filter_cons]
  by_cases h : leaf.1 = occur <;> simp [h]

/-- **The list of an occur** gets the engine queries of the leaves of that occur, in their order. -/
theorem of_gather {descriptor : Descriptor} {occur : Occur} (known : occur ≠ .unrecognized) :
    ∀ {leaves : List Clause} {found found' : ClauseLists},
      leaves.foldlM (gather descriptor) found = .ok found' →
      (found'.of occur).map .ok = (found.of occur).map .ok ++
        (leavesUnder occur leaves).map fun leaf => leaf.2.targetIn descriptor
  | [], found, found', h => by
    cases h
    simp [leavesUnder]
  | leaf :: leaves, found, found', h => by
    rw [List.foldlM_cons] at h
    cases hg : gather descriptor found leaf with
    | error cause => rw [hg] at h; cases h
    | ok next =>
      rw [hg] at h
      obtain ⟨target, ht, ha⟩ := gather_eq_ok hg
      rw [of_gather known h, ClauseLists.of_add ha known, leavesUnder_cons]
      by_cases ho : leaf.1 = occur <;> simp [ho, ht]

/-- The clause lists of a group hold the engine queries of its leaves, by occur and in order. -/
theorem of_flatten {descriptor : Descriptor} {clauses : List Clause} {found : ClauseLists}
    (h : flatten descriptor {} clauses = .ok found) {occur : Occur}
    (known : occur ≠ .unrecognized) :
    (found.of occur).map .ok =
      (leavesUnder occur (leavesOf clauses)).map fun leaf => leaf.2.targetIn descriptor := by
  rw [flatten_eq_foldlM] at h
  rw [of_gather known h]
  cases occur <;> rfl

/-! ## Empty groups -/

/-- A group has no leaves exactly if all its members are empty groups. -/
theorem leavesOf_eq_nil_iff (clauses : List Clause) :
    leavesOf clauses = [] ↔ allEmpty clauses = true := by
  induction clauses using clauses_induction with
  | nil => simp [leavesOf, allEmpty]
  | leaf occur query rest h ih =>
    rw [leavesOf_cons, leaves_leaf h, allEmpty, isEmptyGroup_leaf h]
    simp
  | group occur inner rest ihInner ih =>
    rw [leavesOf_cons, leaves_group, List.append_eq_nil_iff, ihInner, ih, allEmpty, isEmptyGroup,
      Bool.and_eq_true]

theorem leaves_eq_nil_iff (occur : Occur) (query : Query) :
    query.leaves occur = [] ↔ query.isEmptyGroup = true := by
  cases query with
  | group clauses => exact leavesOf_eq_nil_iff clauses
  | matchAll => simp [leaves, isEmptyGroup]
  | wildcard field pattern => simp [leaves, isEmptyGroup]
  | verbatim text => simp [leaves, isEmptyGroup]

end Query

end EntitySearch

import EntitySearch.Proofs.Query.Malformed

/-!
# Trees without empty groups

An empty group, a group without any clause at any depth, counts for nothing wherever it stands.
Pruning a tree takes out every clause that holds one. The leaves that are left are the same, each
under its own occur (`leavesOf_prunedClauses`), and with them the engine query and its errors; the
literal form does not show empty groups in the first place.

* `Query.pruned`: a tree without the clauses that hold empty groups.
* `pruned_alike`: a pruned tree cannot be told from the tree itself.
-/

namespace EntitySearch

namespace Query

mutual
/-- A tree without the clauses, at any depth, that hold empty groups. -/
def pruned : Query → Query
  | .group clauses => .group (prunedClauses clauses)
  | query => query
termination_by structural query => query
/-- The clauses of a group that do not hold empty groups, pruned. -/
def prunedClauses : List (Occur × Query) → List (Occur × Query)
  | [] => []
  | (occur, query) :: rest =>
    if query.isEmptyGroup then prunedClauses rest else (occur, query.pruned) :: prunedClauses rest
termination_by structural clauses => clauses
end

/-! ## What is left of a group -/

theorem pruned_leaf {query : Query} (h : query.isGroup = false) : query.pruned = query := by
  cases query <;> first | rfl | cases h

theorem prunedClauses_empty {query : Query} (h : query.isEmptyGroup = true) (occur : Occur)
    (rest : List Clause) : prunedClauses ((occur, query) :: rest) = prunedClauses rest :=
  if_pos h

theorem prunedClauses_some {query : Query} (h : query.isEmptyGroup = false) (occur : Occur)
    (rest : List Clause) :
    prunedClauses ((occur, query) :: rest) = (occur, query.pruned) :: prunedClauses rest :=
  if_neg (Bool.eq_false_iff.mp h)

theorem prunedClauses_leaf {query : Query} (h : query.isGroup = false) (occur : Occur)
    (rest : List Clause) :
    prunedClauses ((occur, query) :: rest) = (occur, query) :: prunedClauses rest := by
  rw [prunedClauses_some (isEmptyGroup_leaf h), pruned_leaf h]

/-- **The leaves of a group** are those of the pruned group. -/
theorem leavesOf_prunedClauses (clauses : List Clause) :
    leavesOf (prunedClauses clauses) = leavesOf clauses := by
  induction clauses using clauses_induction with
  | nil => rfl
  | leaf occur query rest h ih =>
    rw [prunedClauses_leaf h, leavesOf_cons, leavesOf_cons, ih]
  | group occur inner rest ihInner ih =>
    rw [leavesOf_cons, leaves_group]
    cases h : (Query.group inner).isEmptyGroup with
    | true => rw [prunedClauses_empty h, ih, (leavesOf_eq_nil_iff inner).mpr h, List.nil_append]
    | false => rw [prunedClauses_some h, leavesOf_cons, pruned, leaves_group, ihInner, ih]

/-! ## What is read off a tree -/

theorem isEmptyGroup_pruned (query : Query) : query.pruned.isEmptyGroup = query.isEmptyGroup := by
  cases query with
  | group clauses =>
    rw [Bool.eq_iff_iff, pruned, isEmptyGroup, isEmptyGroup, ← leavesOf_eq_nil_iff,
      leavesOf_prunedClauses, leavesOf_eq_nil_iff]
  | _ => rfl

theorem clausesText_empty {query : Query} (h : query.isEmptyGroup = true) (occur : Occur)
    (space : String) (rest : List Clause) :
    clausesText space ((occur, query) :: rest) = clausesText space rest := if_pos h

theorem clausesText_group {inner : List Clause} (h : (Query.group inner).isEmptyGroup = false)
    (occur : Occur) (space : String) (rest : List Clause) :
    clausesText space ((occur, .group inner) :: rest) =
      space ++ occur.sign ++ ("(" ++ clausesText "" inner ++ ")") ++ clausesText " " rest :=
  if_neg (Bool.eq_false_iff.mp h)

theorem clausesText_prunedClauses (clauses : List Clause) :
    ∀ space, clausesText space (prunedClauses clauses) = clausesText space clauses := by
  induction clauses using clauses_induction with
  | nil => exact fun _ => rfl
  | leaf occur query rest h ih =>
    intro space
    rw [prunedClauses_leaf h, clausesText, clausesText, ih, ih]
  | group occur inner rest ihInner ih =>
    intro space
    cases h : (Query.group inner).isEmptyGroup with
    | true => rw [prunedClauses_empty h, clausesText_empty h, ih]
    | false =>
      have kept := (isEmptyGroup_pruned (.group inner)).trans h
      rw [prunedClauses_some h, pruned, clausesText_group kept, clausesText_group h, ihInner, ih]

theorem text_pruned (query : Query) : query.pruned.text = query.text := by
  cases query with
  | group clauses => exact clausesText_prunedClauses clauses ""
  | _ => rfl

theorem targetIn_pruned (descriptor : Descriptor) (query : Query) :
    query.pruned.targetIn descriptor = query.targetIn descriptor := by
  cases query with
  | group clauses =>
    rw [pruned, targetIn, targetIn, flatten_eq_foldlM, leavesOf_prunedClauses, ← flatten_eq_foldlM]
  | _ => rfl

/-! ## Nothing is left to prune -/

/-- No clause of a pruned group, at any depth, holds an empty group. -/
theorem isEmptyGroup_of_hasClause {clause : Clause} (clauses : List Clause) :
    HasClause clause (.group (prunedClauses clauses)) → clause.2.isEmptyGroup = false := by
  induction clauses using clauses_induction with
  | nil => exact fun hc => absurd hc (not_hasClause_nil clause)
  | leaf occur query rest h ih =>
    rw [prunedClauses_leaf h, hasClause_cons]
    rintro (rfl | hc | hc)
    · exact isEmptyGroup_leaf h
    · exact absurd hc (not_hasClause_leaf h)
    · exact ih hc
  | group occur inner rest ihInner ih =>
    cases h : (Query.group inner).isEmptyGroup with
    | true => rwa [prunedClauses_empty h]
    | false =>
      rw [prunedClauses_some h, hasClause_cons]
      rintro (rfl | hc | hc)
      · exact (isEmptyGroup_pruned _).trans h
      · exact ihInner hc
      · exact ih hc

theorem not_hasClause_empty (query : Query) :
    ¬ ∃ occur node, HasClause (occur, node) query.pruned ∧ node.isEmptyGroup = true := by
  rintro ⟨occur, node, hc, empty⟩
  cases query with
  | group clauses =>
    have some := isEmptyGroup_of_hasClause clauses hc
    rw [empty] at some
    cases some
  | _ => exact not_hasClause_leaf rfl hc

end Query

/-! ## Main results -/

/-- **Empty groups count for nothing.** Take all clauses that hold empty groups, under any occur and
at any depth, out of a tree: for every source of schema information and entity type the result is
answered with the same engine query or the same error, its literal form is the same, it is an empty
group exactly if the tree is one, and none of its clauses holds an empty group any more. -/
theorem pruned_alike (query : Query) :
    (∀ (resolver : Resolver) (entity : String),
      targetFor resolver query.pruned entity = targetFor resolver query entity) ∧
    query.pruned.text = query.text ∧
    query.pruned.isEmptyGroup = query.isEmptyGroup ∧
    ¬ ∃ occur node, query.pruned.HasClause (occur, node) ∧ node.isEmptyGroup = true := by
  refine ⟨fun resolver entity => ?_, query.text_pruned, query.isEmptyGroup_pruned,
    query.not_hasClause_empty⟩
  unfold targetFor
  cases resolver.descriptor entity with
  | error unknown => rfl
  | ok descriptor => exact query.targetIn_pruned descriptor

example : Query.pruned (.group [(.unrecognized, .group [(.must, .group [])]), (.must, .matchAll)]) =
    .group [(.must, .matchAll)] := rfl

end EntitySearch

import EntitySearch.Proofs.Query.Leaves
import EntitySearch.Query.Sort
import EntitySearch.WorkItem

/-!
# Stored forms

Query trees, sort orders and work items are stored as JSON values. Each of them is what its stored form
is read as, so a stored value that was read and written again is read as before, whatever it looked like
at first. The names of occurs that have no meaning become one occur, whose own name has no meaning
either.

* `ReadsBack`: every value is what its stored form is read as; `ReadsBack.settled`.
* `Query.clausesOf?_clausesJson`, `Query.read?_toJson`: a query tree, by induction on its clauses.
* `SortSpec.readsBack`, `WorkItem.readsBack`: sort orders and work items.
* `stored_forms_read_back`: the main result.
-/

namespace EntitySearch

/-- Whether every value is what its stored form is read as. -/
def ReadsBack {α : Type} (write : α → Json) (read : Json → Option α) : Prop :=
  ∀ value, read (write value) = some value

/-- What was read is read again from its stored form, and nothing else. -/
theorem ReadsBack.settled {α : Type} {write : α → Json} {read : Json → Option α}
    (h : ReadsBack write read) (stored : Json) :
    ((read stored).bind fun value => read (write value)) = read stored := by
  cases read stored with
  | none => rfl
  | some value => exact h value

/-! ## Occurs -/

namespace Occur

theorem ofName_name (occur : Occur) : ofName occur.name = occur := by
  cases occur <;> rfl

theorem ofName_eq_unrecognized_iff (name : String) :
    ofName name = .unrecognized ↔ name ∉ ["MUST", "MUST_NOT", "SHOULD"] := by
  unfold ofName
  split <;> simp_all

end Occur

/-! ## Query trees -/

namespace Query

theorem read?_leaf (inside : Bool) {query : Query} (h : query.isGroup = false) :
    read? inside query.toJson = some query := by
  cases query with
  | matchAll => rfl
  | wildcard field pattern => rfl
  | verbatim text => rfl
  | group clauses => cases h

theorem read?_group (inside : Bool) (clauses : List Clause) :
    read? inside (Query.group clauses).toJson =
      (clausesOf? (clausesJson clauses)).map .group := rfl

theorem clauseOf?_named (name : String) (node : Json) :
    clauseOf? (.object [("occur", .string name), ("node", node)]) =
      (read? true node).map fun query => (Occur.ofName name, query) := by
  have tree : treeMember? [("occur", .string name), ("node", node)] = read? true node := rfl
  have occur : (Fields.find? [("occur", .string name), ("node", node)] "occur").bind
      Occur.ofJson? = some (Occur.ofName name) := rfl
  rw [clauseOf?, tree, occur]
  cases read? true node <;> rfl

theorem clausesOf?_cons {occur : Occur} {query : Query} {rest : List Clause}
    (first : read? true query.toJson = some query)
    (others : clausesOf? (clausesJson rest) = some rest) :
    clausesOf? (clausesJson ((occur, query) :: rest)) = some ((occur, query) :: rest) := by
  rw [clausesJson, clausesOf?, clauseOf?_named, first, others, Occur.ofName_name]
  rfl

/-- The clauses of a group read back, with all groups inside of it. -/
theorem clausesOf?_clausesJson (clauses : List Clause) :
    clausesOf? (clausesJson clauses) = some clauses := by
  induction clauses using clauses_induction with
  | nil => rfl
  | leaf occur query rest h ih => exact clausesOf?_cons (read?_leaf true h) ih
  | group occur inner rest ihInner ih =>
    have tree : read? true (Query.group inner).toJson = some (.group inner) := by
      rw [read?_group, ihInner]
      rfl
    exact clausesOf?_cons tree ih

/-- A tree reads back, at the top and inside of a group. -/
theorem read?_toJson (inside : Bool) (query : Query) : read? inside query.toJson = some query := by
  cases query with
  | group clauses =>
    rw [read?_group, clausesOf?_clausesJson]
    rfl
  | _ => exact read?_leaf inside rfl

theorem readsBack : ReadsBack toJson ofJson? := read?_toJson false

end Query

/-! ## Sort orders and work items -/

theorem SortKey.readsBack : ReadsBack SortKey.toJson SortKey.ofJson? := fun _ => rfl

theorem ReadsBack.list {α : Type} {write : α → Json} {read : Json → Option α}
    (h : ReadsBack write read) :
    ReadsBack (fun values => .array (values.map write)) (Json.listOf? read) := by
  intro values
  rw [Json.listOf?]
  induction values with
  | nil => rfl
  | cons value rest ih =>
    rw [List.map_cons, List.mapM_cons, h value, ih]
    rfl

theorem SortSpec.readsBack : ReadsBack SortSpec.toJson SortSpec.ofJson? := SortKey.readsBack.list

/-- A work item reads back, also one whose fields are not mentioned since there are none. -/
theorem WorkItem.readsBack : ReadsBack WorkItem.toJson WorkItem.ofJson? := by
  rintro ⟨kind, entityType, id, fields⟩
  cases kind <;> cases fields <;> rfl

/-- **Stored forms read back.** Every query tree, sort order and work item is what its stored form is
read as. So whatever a query tree was read from, it is read again from its own stored form. A clause is
read, at any depth, with the meaning of the name of its occur; all names but three are the occur without
a meaning, which stays so when the clause is stored and read again. -/
theorem stored_forms_read_back :
    ReadsBack Query.toJson Query.ofJson? ∧ ReadsBack SortSpec.toJson SortSpec.ofJson? ∧
    ReadsBack WorkItem.toJson WorkItem.ofJson? ∧
    (∀ stored, ((Query.ofJson? stored).bind fun query => Query.ofJson? query.toJson) =
      Query.ofJson? stored) ∧
    ∀ name, (Occur.ofName name = .unrecognized ↔ name ∉ ["MUST", "MUST_NOT", "SHOULD"]) ∧
      (∀ node, Query.clauseOf? (.object [("occur", .string name), ("node", node)]) =
        (Query.read? true node).map fun query => (Occur.ofName name, query)) ∧
      ∀ query : Query, Query.clausesOf? (Query.clausesJson [(Occur.ofName name, query)]) =
        some [(Occur.ofName name, query)] :=
  ⟨Query.readsBack, SortSpec.readsBack, WorkItem.readsBack, Query.readsBack.settled, fun name =>
    ⟨Occur.ofName_eq_unrecognized_iff name, Query.clauseOf?_named name, fun query =>
      Query.clausesOf?_clausesJson [(Occur.ofName name, query)]⟩⟩

end EntitySearch

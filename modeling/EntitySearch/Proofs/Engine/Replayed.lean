import EntitySearch.Proofs.Engine.Yields

/-!
# Writes that are applied again, or in another order

An index is a map from identifiers to documents in which the last write wins. So writes that are
applied a second time change no document, and neither does another order of writes to different
identifiers. What may change is the order of the documents: one that is removed and put again is the
last one. Only documents that are not written to keep their places among each other.

* `filter_foldl`: the documents that are not written to, in their order.
* `perm_of_lookup`: two lists of documents that answer alike for every identifier.
* `MemoryIndex.last_write_wins`: what writes make of an index.
* `MemoryEngine.settled_bulk_again`: a bulk request that is sent again.
-/

namespace EntitySearch

namespace Operation

/-- Whether there is a write to an identifier. -/
def touches (operations : List Operation) (id : String) : Bool :=
  operations.any fun operation => operation.id = id

/-- Whether two lists of writes have the same writes to every identifier, in the same order. -/
def SameById (operations others : List Operation) : Prop :=
  ∀ id, operations.filter (fun operation => operation.id = id) =
    others.filter fun operation => operation.id = id

theorem SameById.lastTo? {operations others : List Operation} (h : SameById operations others)
    (id : String) : lastTo? operations id = lastTo? others id := congrArg List.getLast? (h id)

end Operation

namespace MemoryIndex

/-! ## Documents that are not written to -/

section Kept

variable (keeps : String → Bool)

theorem filter_put {document : Document} (h : keeps document.id = false)
    (documents : List Document) :
    (put document documents).filter (fun other => keeps other.id) =
      documents.filter fun other => keeps other.id := by
  induction documents with
  | nil => simp [put, h]
  | cons old rest ih =>
    rw [put]
    split
    · next same => simp [same, h]
    · rw [List.filter_cons, List.filter_cons, ih]

theorem filter_applyTo {operation : Operation} (h : keeps operation.id = false)
    (documents : List Document) :
    (applyTo documents operation).filter (fun document => keeps document.id) =
      documents.filter fun document => keeps document.id := by
  cases operation with
  | put index entityType id fields => exact filter_put keeps h documents
  | remove index entityType id =>
    rw [applyTo, List.filter_filter]
    refine List.filter_congr fun document _ => ?_
    by_cases removed : document.id = id
    · have other : keeps document.id = false := removed ▸ h
      rw [other, Bool.false_and]
    · simp [removed]

/-- Writes leave the documents of all other identifiers as they are, in the same order. -/
theorem filter_foldl {operations : List Operation}
    (h : ∀ operation ∈ operations, keeps operation.id = false) (documents : List Document) :
    (operations.foldl applyTo documents).filter (fun document => keeps document.id) =
      documents.filter fun document => keeps document.id := by
  induction operations generalizing documents with
  | nil => rfl
  | cons operation rest ih =>
    rw [List.foldl_cons, ih fun other ho => h other (List.mem_cons_of_mem _ ho),
      filter_applyTo keeps (h operation List.mem_cons_self)]

end Kept

/-! ## The same documents -/

/-- Documents of distinct identifiers are the same, up to their order, if those of every identifier
are. -/
theorem perm_of_lookup {first second : List Document} (distinct : (first.map (·.id)).Nodup)
    (distinct' : (second.map (·.id)).Nodup) (same : ∀ id, lookup first id = lookup second id) :
    first.Perm second := by
  refine (List.perm_ext_iff_of_nodup distinct.of_map distinct'.of_map).mpr fun document => ?_
  rw [mem_iff_lookup distinct, mem_iff_lookup distinct', same]

section Distinct

variable {documents : List Document} (distinct : (documents.map (·.id)).Nodup)

include distinct

theorem foldl_foldl_perm (operations : List Operation) :
    (operations.foldl applyTo (operations.foldl applyTo documents)).Perm
      (operations.foldl applyTo documents) := by
  have once := distinct_foldl operations distinct
  refine perm_of_lookup (distinct_foldl operations once) once fun id => ?_
  rw [lookup_foldl operations (operations.foldl applyTo documents), lookup_foldl]
  cases Operation.lastTo? operations id <;> rfl

theorem foldl_perm_of_sameById {operations others : List Operation}
    (same : Operation.SameById operations others) :
    (operations.foldl applyTo documents).Perm (others.foldl applyTo documents) := by
  refine perm_of_lookup (distinct_foldl operations distinct) (distinct_foldl others distinct)
    fun id => ?_
  rw [lookup_foldl, lookup_foldl, same.lastTo?]

end Distinct

theorem foldl_apply (operations : List Operation) (index : MemoryIndex) :
    operations.foldl apply index =
      { index with documents := operations.foldl applyTo index.documents } := by
  induction operations generalizing index with
  | nil => rfl
  | cons operation rest ih => exact ih (index.apply operation)

/-- **An index is a map in which the last write wins.** Writes to an index whose documents have
distinct identifiers leave them distinct; the document of an identifier is then the one of the last
write to it, none if this is a removal, and the one of before if there is no write to it; and the
documents that are not written to stay in the same order. So the same writes once more change no
document, and neither does another order of them in which the writes to each identifier keep theirs. -/
theorem last_write_wins (index : MemoryIndex) (distinct : (index.documents.map (·.id)).Nodup)
    (operations : List Operation) :
    ((operations.foldl apply index).documents.map (·.id)).Nodup ∧
    (∀ id, (operations.foldl apply index).find? id =
      match Operation.lastTo? operations id with
      | some operation => operation.document?
      | none => index.find? id) ∧
    (operations.foldl apply index).documents.filter
        (fun document => !Operation.touches operations document.id) =
      index.documents.filter (fun document => !Operation.touches operations document.id) ∧
    (operations.foldl apply (operations.foldl apply index)).documents.Perm
      (operations.foldl apply index).documents ∧
    ∀ others, Operation.SameById operations others →
      (others.foldl apply index).documents.Perm (operations.foldl apply index).documents := by
  have untouched : ∀ operation ∈ operations, (!Operation.touches operations operation.id) = false := by
    intro operation ho
    rw [Bool.not_eq_false', Operation.touches, List.any_eq_true]
    exact ⟨operation, ho, decide_eq_true rfl⟩
  have kept := filter_foldl (fun id => !Operation.touches operations id) untouched index.documents
  simp only [foldl_apply]
  exact ⟨distinct_foldl operations distinct, fun id => lookup_foldl operations index.documents id,
    kept, foldl_foldl_perm distinct operations,
    fun others same => (foldl_perm_of_sameById distinct same).symm⟩

/-- Three documents. -/
def shelf : MemoryIndex where
  documents := [⟨"a", "A", []⟩, ⟨"b", "A", []⟩, ⟨"c", "A", []⟩]

/-- Writes that remove a document and put it again, and change another one before they remove it. -/
def revisions : List Operation :=
  [.remove "main" "A" "a", .put "main" "B" "b" [], .put "main" "B" "a" [], .remove "main" "A" "b"]

/-- The same writes, those to one document first. -/
def sortedRevisions : List Operation :=
  [.put "main" "B" "b" [], .remove "main" "A" "b", .remove "main" "A" "a", .put "main" "B" "a" []]

theorem sameById_sortedRevisions : Operation.SameById revisions sortedRevisions := by
  intro id
  simp only [revisions, sortedRevisions, List.filter_cons, List.filter_nil, Operation.id]
  by_cases a : "a" = id
  · have b : "b" ≠ id := a ▸ by decide
    simp [a, b]
  · by_cases b : "b" = id <;> simp [a, b]

theorem last_write_wins_revisions :
    ((revisions.foldl apply shelf).documents.map (·.id)) = ["c", "a"] ∧
    (revisions.foldl apply shelf).find? "a" = some ⟨"a", "B", []⟩ ∧
    (revisions.foldl apply shelf).find? "b" = none ∧
    (revisions.foldl apply shelf).find? "c" = some ⟨"c", "A", []⟩ ∧
    (revisions.foldl apply (revisions.foldl apply shelf)).documents.Perm
      (revisions.foldl apply shelf).documents ∧
    (sortedRevisions.foldl apply shelf).documents.Perm (revisions.foldl apply shelf).documents := by
  obtain ⟨-, found, -, again, others⟩ := last_write_wins shelf (by decide) revisions
  exact ⟨rfl, found "a", found "b", found "c", again, others _ sameById_sortedRevisions⟩

end MemoryIndex

/-! ## Bulk requests -/

namespace MemoryEngine

theorem bulk_eq_foldl {engine : MemoryEngine} (past : Outage.Over engine.faults.bulkOutage)
    (delay : Duration) (operations : List Operation) :
    (engine.bulk delay operations).1 =
      (operations.filter fun operation =>
        !engine.faults.rejected.contains operation.id).foldl write engine := by
  rw [bulk_of_over past]
  exact (writeAll_eq operations 0 engine).1

/-- **A bulk request that is sent again**, as after an answer that was lost, changes no document,
whether searches see its writes at once or after a refresh. -/
theorem settled_bulk_again {engine : MemoryEngine} (orderly : engine.Orderly)
    (past : Outage.Over engine.faults.bulkOutage) (delay : Duration) (operations : List Operation)
    {name : String} (distinct : ((engine.index name).settled.map (·.id)).Nodup) :
    (((engine.bulk delay operations).1.bulk delay operations).1.index name).settled.Perm
      ((engine.bulk delay operations).1.index name).settled := by
  have first := bulk_eq_foldl past delay operations
  generalize hw : operations.filter _ = written at first
  have same : (engine.bulk delay operations).1.faults = engine.faults := by
    rw [first, faults_foldl_write]
  have second := bulk_eq_foldl (same ▸ past) delay operations
  rw [same, hw, first] at second
  obtain ⟨orderly', settled⟩ := settled_foldl_write written orderly
  rw [first, second, (settled_foldl_write written orderly').2, settled]
  exact MemoryIndex.foldl_foldl_perm distinct _

end MemoryEngine

end EntitySearch

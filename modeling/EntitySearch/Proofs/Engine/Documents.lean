import EntitySearch.Engine.Memory
import Mathlib.Data.List.Induction
import Mathlib.Data.List.Nodup

/-!
# The documents after writes

An index has at most one document of each identifier, and after writes it is the one of the last
write to this identifier: the document that was put, or none if it was removed.

* `Operation.document?`: the document that a write leaves behind.
* `Operation.lastTo?`, `Operation.lastAt?`: the last write to an identifier.
* `lookup_applyTo`, `lookup_foldl`: the document of an identifier after one write and after many.
* `distinct_foldl`: writes keep identifiers distinct.
-/

namespace EntitySearch

/-- The document that a write leaves behind. -/
def Operation.document? : Operation → Option Document
  | .put _ entityType id fields => some ⟨id, entityType, fields⟩
  | .remove _ _ _ => none

/-- The last write to an identifier. -/
def Operation.lastTo? (operations : List Operation) (id : String) : Option Operation :=
  (operations.filter fun operation => operation.id = id).getLast?

/-- The last write to an identifier of an index. -/
def Operation.lastAt? (operations : List Operation) (index id : String) : Option Operation :=
  lastTo? (operations.filter fun operation => operation.index = index) id

theorem Operation.lastAt?_eq_some {operations : List Operation} {index id : String}
    {operation : Operation} (h : lastAt? operations index id = some operation) :
    operation ∈ operations ∧ operation.index = index ∧ operation.id = id := by
  have hm := List.mem_of_getLast? h
  simp only [List.mem_filter, decide_eq_true_eq] at hm
  exact ⟨hm.1.1, hm.1.2, hm.2⟩

namespace MemoryIndex

/-- The document of an identifier. -/
def lookup (documents : List Document) (id : String) : Option Document :=
  documents.find? fun document => document.id = id

theorem lookup_put (document : Document) (documents : List Document) (id : String) :
    lookup (put document documents) id =
      if document.id = id then some document else lookup documents id := by
  induction documents with
  | nil =>
    rw [put, lookup, List.find?_cons]
    by_cases h : document.id = id <;> simp [h, lookup]
  | cons old rest ih =>
    rw [put]
    by_cases ho : old.id = document.id
    · rw [if_pos ho, lookup, List.find?_cons, lookup, List.find?_cons, ho]
      by_cases h : document.id = id <;> simp [h]
    · rw [if_neg ho, lookup, List.find?_cons, lookup, List.find?_cons]
      by_cases hi : old.id = id
      · have hd : ¬ document.id = id := fun h => ho (hi.trans h.symm)
        simp [hi, hd]
      · simpa [hi, lookup] using ih

theorem lookup_remove (documents : List Document) (removed id : String) :
    lookup (documents.filter fun document => document.id ≠ removed) id =
      if removed = id then none else lookup documents id := by
  rw [lookup, List.find?_filter]
  by_cases h : removed = id
  · rw [if_pos h, List.find?_eq_none]
    intro document _
    simp [h]
  · rw [if_neg h, lookup]
    congr 1
    funext document
    by_cases hd : document.id = id
    · simp [hd, Ne.symm h]
    · simp [hd]

/-- The document of an identifier after a write. -/
theorem lookup_applyTo (documents : List Document) (operation : Operation) (id : String) :
    lookup (applyTo documents operation) id =
      if operation.id = id then operation.document? else lookup documents id := by
  cases operation with
  | put index entityType written fields => exact lookup_put ⟨written, entityType, fields⟩ _ id
  | remove index entityType removed => exact lookup_remove documents removed id

/-- **The document of an identifier after writes** is the one of the last write to it. -/
theorem lookup_foldl (operations : List Operation) (documents : List Document) (id : String) :
    lookup (operations.foldl applyTo documents) id =
      match Operation.lastTo? operations id with
      | some operation => operation.document?
      | none => lookup documents id := by
  induction operations using List.reverseRecOn with
  | nil => rfl
  | append_singleton operations operation ih =>
    rw [List.foldl_append, List.foldl_cons, List.foldl_nil, lookup_applyTo, ih,
      Operation.lastTo?, Operation.lastTo?, List.filter_append]
    by_cases h : operation.id = id <;> simp [h]

/-! ## Distinct identifiers -/

theorem map_id_put (document : Document) (documents : List Document) :
    (put document documents).map (·.id) =
      if document.id ∈ documents.map (·.id) then documents.map (·.id)
      else documents.map (·.id) ++ [document.id] := by
  induction documents with
  | nil => simp [put]
  | cons old rest ih =>
    rw [put]
    by_cases ho : old.id = document.id
    · simp [ho]
    · rw [if_neg ho, List.map_cons, ih]
      by_cases hm : document.id ∈ rest.map (·.id)
      · simp [hm]
      · simp [hm, Ne.symm ho]

theorem distinct_applyTo {documents : List Document} (h : (documents.map (·.id)).Nodup)
    (operation : Operation) : ((applyTo documents operation).map (·.id)).Nodup := by
  cases operation with
  | put index entityType id fields =>
    rw [applyTo, map_id_put]
    split
    · exact h
    · next hn =>
      rw [List.nodup_append]
      refine ⟨h, List.nodup_singleton _, ?_⟩
      rintro a ha b hb rfl
      exact hn (List.mem_singleton.mp hb ▸ ha)
  | remove index entityType id => exact h.sublist (List.filter_sublist.map _)

/-- Writes keep identifiers distinct. -/
theorem distinct_foldl (operations : List Operation) {documents : List Document}
    (h : (documents.map (·.id)).Nodup) :
    ((operations.foldl applyTo documents).map (·.id)).Nodup := by
  induction operations generalizing documents with
  | nil => exact h
  | cons operation rest ih => exact ih (distinct_applyTo h operation)

theorem mem_iff_lookup {documents : List Document} (h : (documents.map (·.id)).Nodup)
    (document : Document) :
    document ∈ documents ↔ lookup documents document.id = some document := by
  constructor
  · intro hm
    cases hl : lookup documents document.id with
    | none =>
      rw [lookup, List.find?_eq_none] at hl
      exact absurd (decide_eq_true rfl) (hl document hm)
    | some found =>
      have hf : found.id = document.id := by simpa using List.find?_some hl
      rw [List.inj_on_of_nodup_map h (List.mem_of_find?_eq_some hl) hm hf]
  · exact fun hl => List.mem_of_find?_eq_some hl

end MemoryIndex

end EntitySearch

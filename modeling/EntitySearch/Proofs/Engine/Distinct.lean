import EntitySearch.Proofs.Engine.Delayed

/-!
# Identifiers stay distinct

No index of an engine in memory ever has two documents of one identifier, whatever the engine was asked
and whatever went wrong: a document that is put takes the place of the one with its identifier, and
writes that waited for a refresh are applied in the same way.

* `MemoryEngine.Distinct`: the invariant; `distinct_after` for one event.
* `MemoryEngine.Reachable`: what can have become of an engine that was empty.
* `Reachable.distinct`: the documents of any index of such an engine.
-/

namespace EntitySearch

namespace MemoryEngine

/-- Whether no index has two documents of one identifier. -/
def Distinct (engine : MemoryEngine) : Prop :=
  ∀ name, ((engine.index name).documents.map (·.id)).Nodup

variable {engine : MemoryEngine}

theorem distinct_set (h : engine.Distinct) {index : MemoryIndex}
    (own : (index.documents.map (·.id)).Nodup) (name : String) :
    Distinct { engine with indices := engine.indices.set name index } := by
  intro key
  rw [index_set]
  split
  · exact own
  · exact h key

theorem distinct_write (h : engine.Distinct) (operation : Operation) :
    (engine.write operation).Distinct := by
  have own := h operation.index
  rw [write]
  refine distinct_set h ?_ _
  split
  · exact own
  · exact MemoryIndex.distinct_applyTo own operation

theorem distinct_writeAll (operations : List Operation) (position : Nat) (h : engine.Distinct) :
    (writeAll position engine operations).1.Distinct := by
  rw [(writeAll_eq operations position engine).1]
  generalize operations.filter _ = kept
  induction kept generalizing engine with
  | nil => exact h
  | cons operation rest ih => exact ih (distinct_write h operation)

theorem distinct_refreshAll (names : List String) :
    ∀ {engine : MemoryEngine}, engine.Distinct → (refreshAll engine names).1.Distinct := by
  induction names with
  | nil => exact id
  | cons name rest ih =>
    intro engine h
    rw [refreshAll]
    cases hf : engine.indices.find? name with
    | none => exact h
    | some index =>
      have own := h name
      rw [index_of_find hf] at own
      exact ih (distinct_set h (MemoryIndex.distinct_foldl index.unrefreshed own) name)

/-- **One request.** -/
theorem distinct_answer? (h : engine.Distinct) (delay : Duration) (call : Call) :
    (engine.answer? delay call).1.Distinct := by
  cases call with
  | bulk operations =>
    change (engine.bulk delay operations).1.Distinct
    rcases bulk_cases engine delay operations with ⟨_, _, -, hb⟩ | hb
    · rw [hb]
      exact h
    · rw [hb]
      exact distinct_writeAll operations 0 h
  | refresh names =>
    change (engine.refresh names).1.Distinct
    rcases refresh_cases engine names with ⟨_, _, -, hr⟩ | hr
    · rw [hr]
      exact h
    · rw [hr]
      exact distinct_refreshAll names h
  | createIndex name mapping =>
    change (engine.createIndex name mapping).1.Distinct
    rw [createIndex]
    split
    · exact h
    · have empty : (({ mapping } : MemoryIndex).documents.map (·.id)).Nodup := List.nodup_nil
      exact distinct_set h empty name
  | deleteIndex name =>
    change (engine.deleteIndex name).1.Distinct
    rw [deleteIndex]
    split
    · intro key
      rw [index, Indices.find?_erase]
      split
      · exact List.nodup_nil
      · exact h key
    · exact h
  | indexExists name => exact h
  | health name status limit => exact h
  | search request => exact h

theorem distinct_after (h : engine.Distinct) (event : EngineEvent) : (engine.after event).Distinct := by
  cases event with
  | call call =>
    have recorded : (engine.record call).Distinct := h
    exact distinct_answer? recorded (engine.delay call) call
  | inject faults => exact h

/-! ## Engines that were empty -/

/-- What can have become of an engine that was empty: it was asked, and told what is to go wrong. -/
def Reachable (engine : MemoryEngine) : Prop :=
  ∃ postpones events, engine = MemoryEngine.play { postpones } events

/-- **No index has two documents of one identifier** at any time. -/
theorem Reachable.distinct (h : engine.Reachable) : engine.Distinct := by
  obtain ⟨postpones, events, rfl⟩ := h
  have empty : MemoryEngine.Distinct { postpones } := fun _ => List.nodup_nil
  generalize ({ postpones } : MemoryEngine) = engine at empty
  induction events generalizing engine with
  | nil => exact empty
  | cons event rest ih => exact ih _ (distinct_after empty event)

end MemoryEngine

end EntitySearch

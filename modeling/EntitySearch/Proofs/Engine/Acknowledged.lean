import EntitySearch.Proofs.Engine.Settled

/-!
# What an answer to a bulk request says

An answer names the positions of the operations that were rejected; the others are acknowledged. An
engine in memory rejects by identifier, and what it acknowledges is what it has written.

* `BulkResponse.rejects`, `BulkResponse.acknowledged`: an answer, operation by operation.
* `BulkResponse.ById`: answers under which operations on one document have the same fate.
* `BulkResponse.OneByOne`: those that reject no operation twice.
* `MemoryEngine.rejects_bulk`: the positions that an engine in memory rejects.
* `MemoryEngine.acknowledged_bulk`: what it acknowledges is what it has written.
-/

namespace EntitySearch

namespace BulkResponse

/-- Whether an answer rejects the operation at a position. -/
def rejects (response : BulkResponse) (position : Nat) : Bool :=
  response.rejections.any fun rejection => rejection.position = position

/-- The operations of a request that its answer does not reject. -/
def acknowledged (response : BulkResponse) (operations : List Operation) : List Operation :=
  (operations.zipIdx.filter fun entry => !response.rejects entry.2).map (·.1)

/-- Whether an answer rejects the operations on certain documents and no others. -/
def ById (operations : List Operation) (response : BulkResponse) : Prop :=
  ∃ refused : List String, ∀ position operation, operations[position]? = some operation →
    (response.rejects position = true ↔ operation.id ∈ refused)

/-- Whether an answer rejects the operations on certain documents, each of them once and in their
order. -/
def OneByOne (operations : List Operation) (response : BulkResponse) : Prop :=
  ∃ refused : List String, response.rejections.map (·.position) =
    (operations.zipIdx.filter fun entry => refused.contains entry.1.id).map (·.2)

variable {response : BulkResponse} {operations : List Operation} {operation : Operation}

theorem OneByOne.byId (h : OneByOne operations response) : ById operations response := by
  obtain ⟨refused, positions⟩ := h
  refine ⟨refused, fun position operation there => ?_⟩
  have rejected : response.rejects position = true ↔
      position ∈ response.rejections.map (·.position) := by
    simp [rejects]
  rw [rejected, positions]
  simp only [List.mem_map, List.mem_filter, Prod.exists, List.mk_mem_zipIdx_iff_getElem?,
    exists_eq_right, List.contains_iff_mem]
  constructor
  · rintro ⟨other, ho, hr⟩
    rw [there] at ho
    cases ho
    exact hr
  · exact fun hr => ⟨operation, there, hr⟩

theorem mem_acknowledged :
    operation ∈ response.acknowledged operations ↔
      ∃ position, operations[position]? = some operation ∧ response.rejects position = false := by
  simp only [acknowledged, List.mem_map, List.mem_filter, Bool.not_eq_true', Prod.exists,
    List.mk_mem_zipIdx_iff_getElem?]
  constructor
  · rintro ⟨_, position, ⟨hp, hr⟩, rfl⟩
    exact ⟨position, hp, hr⟩
  · rintro ⟨position, hp, hr⟩
    exact ⟨operation, position, ⟨hp, hr⟩, rfl⟩

theorem ById.mem_acknowledged_iff (h : ById operations response) {position : Nat}
    (there : operations[position]? = some operation) :
    operation ∈ response.acknowledged operations ↔ response.rejects position = false := by
  obtain ⟨refused, hr⟩ := h
  refine ⟨fun hm => ?_, fun hp => mem_acknowledged.mpr ⟨position, there, hp⟩⟩
  obtain ⟨other, ho, hp⟩ := mem_acknowledged.mp hm
  rw [Bool.eq_false_iff, ne_eq, hr other operation ho] at hp
  rwa [Bool.eq_false_iff, ne_eq, hr position operation there]

/-- What is acknowledged if an answer rejects the operations on certain documents. -/
theorem acknowledged_eq_filter {refused : List String}
    (h : ∀ position operation, operations[position]? = some operation →
      response.rejects position = refused.contains operation.id) :
    response.acknowledged operations =
      operations.filter fun operation => !refused.contains operation.id := by
  have same : (operations.zipIdx.filter fun entry => !response.rejects entry.2) =
      operations.zipIdx.filter
        ((fun operation => !refused.contains operation.id) ∘ fun entry => entry.1) := by
    refine List.filter_congr ?_
    rintro ⟨operation, position⟩ hm
    rw [h position operation (List.mk_mem_zipIdx_iff_getElem?.mp hm)]
    rfl
  rw [acknowledged, same, ← List.filter_map]
  congr 1
  exact List.zipIdx_map_fst 0 operations

end BulkResponse

namespace MemoryEngine

theorem rejections_writeAll (operations : List Operation) :
    ∀ (position : Nat) (engine : MemoryEngine), (writeAll position engine operations).2 =
      ((operations.zipIdx position).filter fun entry =>
        engine.faults.rejected.contains entry.1.id).map fun entry =>
          rejection entry.2 entry.1.id := by
  induction operations with
  | nil => exact fun _ _ => rfl
  | cons operation rest ih =>
    intro position engine
    rw [writeAll, List.zipIdx_cons, List.filter_cons]
    by_cases hr : engine.faults.rejected.contains operation.id = true
    · rw [if_pos hr, if_pos hr, List.map_cons, ← ih (position + 1) engine]
    · rw [if_neg hr, if_neg hr, ih (position + 1) (engine.write operation), faults_write]

/-- The positions that are rejected are those of the documents that are to be rejected. -/
theorem rejects_bulk {engine : MemoryEngine} {delay : Duration} {operations : List Operation}
    {response : BulkResponse} (h : (engine.bulk delay operations).2 = .ok response)
    {position : Nat} {operation : Operation} (there : operations[position]? = some operation) :
    response.rejects position = engine.faults.rejected.contains operation.id := by
  rcases bulk_cases engine delay operations with ⟨error, outage, -, hb⟩ | hb
  · rw [hb] at h
    cases h
  rw [hb] at h
  cases h
  rw [Bool.eq_iff_iff, BulkResponse.rejects, rejections_writeAll]
  simp only [List.any_map, List.any_filter, List.any_eq_true, Prod.exists, Function.comp_apply,
    List.mk_mem_zipIdx_iff_getElem?, Bool.and_eq_true, rejection, decide_eq_true_eq]
  constructor
  · rintro ⟨other, _, ho, hr, rfl⟩
    rw [there] at ho
    cases ho
    exact hr
  · exact fun hr => ⟨operation, position, there, hr, rfl⟩

theorem oneByOne_bulk {engine : MemoryEngine} {delay : Duration} {operations : List Operation}
    {response : BulkResponse} (h : (engine.bulk delay operations).2 = .ok response) :
    BulkResponse.OneByOne operations response := by
  rcases bulk_cases engine delay operations with ⟨error, outage, -, hb⟩ | hb
  · rw [hb] at h
    cases h
  rw [hb] at h
  cases h
  refine ⟨engine.faults.rejected, ?_⟩
  rw [rejections_writeAll, List.map_map]
  rfl

theorem byId_bulk {engine : MemoryEngine} {delay : Duration} {operations : List Operation}
    {response : BulkResponse} (h : (engine.bulk delay operations).2 = .ok response) :
    BulkResponse.ById operations response := (oneByOne_bulk h).byId

/-- **What an engine in memory acknowledges** is what it has written. -/
theorem acknowledged_bulk {engine : MemoryEngine} {delay : Duration}
    {operations : List Operation} {response : BulkResponse}
    (h : (engine.bulk delay operations).2 = .ok response) :
    (engine.bulk delay operations).1 = (response.acknowledged operations).foldl write engine := by
  rw [BulkResponse.acknowledged_eq_filter fun _ _ => rejects_bulk h]
  rcases bulk_cases engine delay operations with ⟨error, outage, -, hb⟩ | hb
  · rw [hb] at h
    cases h
  · rw [hb]
    exact (writeAll_eq operations 0 engine).1

end MemoryEngine

end EntitySearch

import EntitySearch.Proofs.Engine.Documents
import EntitySearch.Proofs.Queue.Steps
import EntitySearch.Queue.Writer

/-!
# The operations of items

Every item whose entity type is known becomes one operation, in the order of the items; the other
items have none. A queue takes only items whose entity type is known. A job writes to the indices of
its operations and refreshes each of them.

* `Resolver.operation?`: the operation of an item.
* `Queue.enqueue_cases`: what becomes of an item that is handed to a queue.
* `Queue.knows_of_accepted`: the items that a queue takes.
* `BulkPlan.operations_ofItems`, `BulkPlan.unresolved_ofItems`: what becomes of items.
* `BulkPlan.mem_indices`: the indices written to.
* `Resolver.lastIn?`, `Resolver.lastAt?_operations`, `Resolver.lastAt?_of_lastIn?`: the last item of an
  identifier.
-/

namespace EntitySearch

/-- The operation of an item; there is none if its entity type is not known. -/
def Resolver.operation? (resolver : Resolver) (item : WorkItem) : Option Operation :=
  match resolver.descriptor item.entityType with
  | .ok descriptor => some (BulkPlan.operation descriptor item)
  | .error _ => none

/-- Whether the entity type of an item is known. -/
def Resolver.Knows (resolver : Resolver) (item : WorkItem) : Prop :=
  ∃ descriptor, resolver.descriptor item.entityType = .ok descriptor

namespace Resolver

variable {resolver : Resolver} {item : WorkItem}

theorem knows_or_unknown (resolver : Resolver) (item : WorkItem) :
    resolver.Knows item ∨ ∃ cause, resolver.descriptor item.entityType = .error cause := by
  cases found : resolver.descriptor item.entityType with
  | ok descriptor => exact .inl ⟨descriptor, found⟩
  | error cause => exact .inr ⟨cause, rfl⟩

theorem operation?_of_descriptor {descriptor : Descriptor}
    (known : resolver.descriptor item.entityType = .ok descriptor) :
    resolver.operation? item = some (BulkPlan.operation descriptor item) := by
  rw [operation?, known]

theorem not_knows {cause : SchemaError} (unknown : resolver.descriptor item.entityType = .error cause) :
    ¬ resolver.Knows item := by
  rintro ⟨descriptor, found⟩
  rw [unknown] at found
  cases found

end Resolver

namespace Queue

variable {queue : Queue} {resolver : Resolver} {now : Duration}

theorem enqueue_unknown {item : WorkItem} {cause : SchemaError}
    (h : resolver.descriptor item.entityType = .error cause) :
    queue.enqueue resolver now item = ⟨.error (.schema cause), queue, []⟩ := by
  rw [enqueue, h]

/-- **What becomes of an item** that is handed to a queue: it is refused, or it waits for a batch, or
it fills one and all that waits is submitted. -/
theorem enqueue_cases (queue : Queue) (resolver : Resolver) (now : Duration) (item : WorkItem) :
    (¬ (resolver.Knows item ∧ queue.stopped = false) ∧
      ∃ cause, queue.enqueue resolver now item = ⟨.error cause, queue, []⟩) ∨
    (resolver.Knows item ∧ queue.stopped = false) ∧
      let pushed := { queue with pending := (queue.pending.push now item).1 }
      queue.enqueue resolver now item =
        match (queue.pending.push now item).2 with
        | some reason => pushed.submit now reason queue.strict
        | none => ⟨.ok none, pushed, [.pending pushed.pending.size]⟩ := by
  cases known : resolver.descriptor item.entityType with
  | error cause =>
    exact .inl ⟨fun fit => Resolver.not_knows known fit.1, _, enqueue_unknown known⟩
  | ok descriptor =>
    unfold enqueue
    rw [known]
    dsimp only
    by_cases stopped : queue.stopped = true
    · rw [if_pos stopped]
      exact .inl ⟨fun taken => absurd stopped (Bool.eq_false_iff.mp taken.2), _, rfl⟩
    · rw [if_neg stopped]
      exact .inr ⟨⟨⟨descriptor, known⟩, Bool.eq_false_iff.mpr stopped⟩, rfl⟩

/-- A queue takes only items whose entity type is known. -/
theorem knows_of_accepted {action : QueueAction} {item : WorkItem}
    (h : item ∈ action.accepted (queue.perform resolver now action).result) :
    resolver.Knows item := by
  cases action with
  | enqueue taken =>
    rw [perform] at h
    cases hd : resolver.descriptor taken.entityType with
    | error cause =>
      rw [enqueue_unknown hd] at h
      cases h
    | ok descriptor =>
      unfold QueueAction.accepted at h
      split at h
      · next own _ he _ =>
        cases he
        rw [List.mem_singleton.mp h]
        exact ⟨descriptor, hd⟩
      · cases h
  | flush => cases h
  | flushAndWait => cases h
  | tick => cases h
  | beginStop => cases h

end Queue

namespace BulkPlan

theorem operations_ofItems (resolver : Resolver) (items : List WorkItem) :
    (ofItems resolver items).operations = items.filterMap resolver.operation? := by
  induction items with
  | nil => rfl
  | cons item rest ih =>
    rw [ofItems, List.filterMap_cons, Resolver.operation?, ← ih]
    cases resolver.descriptor item.entityType <;> rfl

/-- Every item has an operation if all entity types are known. -/
theorem unresolved_ofItems {resolver : Resolver} {items : List WorkItem}
    (h : ∀ item ∈ items, resolver.Knows item) : (ofItems resolver items).unresolved = [] := by
  induction items with
  | nil => rfl
  | cons item rest ih =>
    obtain ⟨descriptor, hd⟩ := h item List.mem_cons_self
    rw [ofItems, hd]
    exact ih fun other ho => h other (List.mem_cons_of_mem _ ho)

theorem isEmpty_entries_ofItems {resolver : Resolver} {items : List WorkItem} (filled : items ≠ [])
    (h : ∀ item ∈ items, resolver.Knows item) :
    (ofItems resolver items).entries.isEmpty = false := by
  cases items with
  | nil => exact absurd rfl filled
  | cons item rest =>
    obtain ⟨descriptor, hd⟩ := h item List.mem_cons_self
    rw [ofItems, hd]
    rfl

/-- The indices written to are those of the operations. -/
theorem mem_indices {plan : BulkPlan} {name : String} :
    name ∈ plan.indices ↔ ∃ operation ∈ plan.operations, operation.index = name := by
  have seen : ∀ (operations : List Operation) (found : List String),
      name ∈ operations.foldl (fun found operation =>
        if found.contains operation.index then found else found ++ [operation.index]) found ↔
          name ∈ found ∨ ∃ operation ∈ operations, operation.index = name := by
    intro operations
    induction operations with
    | nil => exact fun _ => ⟨.inl, fun h => h.resolve_right nofun⟩
    | cons first rest ih =>
      intro found
      rw [List.foldl_cons, ih, List.exists_mem_cons_iff, ← or_assoc]
      refine or_congr_left ?_
      by_cases hc : found.contains first.index = true
      · rw [if_pos hc]
        refine ⟨.inl, fun h => h.elim id ?_⟩
        rintro rfl
        exact List.contains_iff_mem.mp hc
      · rw [if_neg hc, List.mem_append, List.mem_singleton, @eq_comm _ name]
  exact (seen plan.operations []).trans (or_iff_right List.not_mem_nil)

end BulkPlan

/-! ## The last item -/

namespace Resolver

variable {resolver : Resolver}

/-- The index of an item; there is none if its entity type is not known. -/
def index? (resolver : Resolver) (item : WorkItem) : Option String :=
  (resolver.indexName item.entityType).toOption

/-- The last item with an identifier among those of all entity types of an index. -/
def lastIn? (resolver : Resolver) (items : List WorkItem) (index id : String) : Option WorkItem :=
  (items.filter fun item => resolver.index? item = some index && item.id = id).getLast?

theorem index?_eq_some {item : WorkItem} {index : String} :
    resolver.index? item = some index ↔
      ∃ descriptor, resolver.descriptor item.entityType = .ok descriptor ∧
        descriptor.indexName = index := by
  rw [index?, indexName]
  cases resolver.descriptor item.entityType <;> simp [Except.map, Except.toOption]

theorem lastIn?_eq_some {items : List WorkItem} {index id : String} {item : WorkItem}
    (h : resolver.lastIn? items index id = some item) :
    item ∈ items ∧ resolver.index? item = some index ∧ item.id = id := by
  have found := List.mem_filter.mp (List.mem_of_getLast? h)
  simpa using found

/-- The document that an item leaves behind. -/
def document? (resolver : Resolver) (item : WorkItem) : Option Document :=
  (resolver.operation? item).bind (·.document?)

theorem document?_eq_some {item : WorkItem} {document : Document}
    (h : resolver.document? item = some document) :
    ∃ descriptor, resolver.descriptor item.entityType = .ok descriptor ∧ item.kind = .add ∧
      document = ⟨item.id, descriptor.entityType, BulkPlan.fieldsOf descriptor item⟩ := by
  rw [document?, operation?] at h
  cases hd : resolver.descriptor item.entityType with
  | error cause =>
    rw [hd] at h
    cases h
  | ok descriptor =>
    rw [hd] at h
    refine ⟨descriptor, rfl, ?_⟩
    cases hk : item.kind with
    | add => simpa [BulkPlan.operation, hk, Operation.document?, eq_comm] using h
    | delete => simp [BulkPlan.operation, hk, Operation.document?] at h

theorem document?_add {item : WorkItem} {descriptor : Descriptor}
    (known : resolver.descriptor item.entityType = .ok descriptor) (add : item.kind = .add) :
    resolver.document? item =
      some ⟨item.id, descriptor.entityType, BulkPlan.fieldsOf descriptor item⟩ := by
  simp [document?, operation?, known, BulkPlan.operation, add, Operation.document?]

theorem index_operation (descriptor : Descriptor) (item : WorkItem) :
    (BulkPlan.operation descriptor item).index = descriptor.indexName ∧
      (BulkPlan.operation descriptor item).id = item.id := by
  unfold BulkPlan.operation
  split <;> exact ⟨rfl, rfl⟩

theorem id_of_operation? {item : WorkItem} {operation : Operation}
    (own : resolver.operation? item = some operation) : operation.id = item.id := by
  rw [operation?] at own
  split at own
  · cases own
    exact (index_operation _ item).2
  · cases own

/-- The last write to an identifier of an index is that of the last item. -/
theorem lastAt?_operations (items : List WorkItem) (index id : String) :
    Operation.lastAt? (items.filterMap resolver.operation?) index id =
      (resolver.lastIn? items index id).bind resolver.operation? := by
  induction items using List.reverseRecOn with
  | nil => rfl
  | append_singleton items item ih =>
    rw [Operation.lastAt?, Operation.lastTo?, lastIn?] at ih ⊢
    rw [List.filterMap_append, List.filter_append, List.filter_append, List.filter_append]
    cases hd : resolver.descriptor item.entityType with
    | error cause =>
      have unknown : resolver.operation? item = none := by rw [operation?, hd]
      have nowhere : resolver.index? item = none := by
        rw [index?, indexName, hd]
        rfl
      simpa [unknown, nowhere] using ih
    | ok descriptor =>
      obtain ⟨hi, ho⟩ := index_operation descriptor item
      have known := operation?_of_descriptor hd
      have stored : resolver.index? item = some descriptor.indexName := by
        rw [index?, indexName, hd]
        rfl
      by_cases hn : descriptor.indexName = index
      · by_cases hid : item.id = id
        · simp [known, stored, hi, ho, hn, hid]
        · simpa [known, stored, hi, ho, hn, hid] using ih
      · simpa [known, stored, hi, hn] using ih

/-- The operation of the last item is the last one on its document. -/
theorem lastAt?_of_lastIn? {items : List WorkItem} {index id : String} {item : WorkItem}
    (last : resolver.lastIn? items index id = some item) :
    ∃ descriptor, resolver.descriptor item.entityType = .ok descriptor ∧
      Operation.lastAt? (BulkPlan.ofItems resolver items).operations index id =
        some (BulkPlan.operation descriptor item) := by
  obtain ⟨-, stored, -⟩ := lastIn?_eq_some last
  obtain ⟨descriptor, known, -⟩ := index?_eq_some.mp stored
  refine ⟨descriptor, known, ?_⟩
  rw [BulkPlan.operations_ofItems, lastAt?_operations, last, Option.bind_some,
    operation?_of_descriptor known]

end Resolver

end EntitySearch

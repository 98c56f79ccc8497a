import EntitySearch.Proofs.Queue.Course
import EntitySearch.Proofs.Queue.Plan

/-!
# The account of a job

The account of a job says what the engine has acknowledged of it and which of its items are reported
as undelivered. Whatever the engine answers, a job has at most one answer that counts, the last one
to its bulk request, and every item of the job is either acknowledged there or reported; if the
engine rejects by identifier, never both.

* `Account`, `Ledger.account`: what was acknowledged and what was reported.
* `BulkPlan.Accounted`: the account of a job that has ended; `BulkPlan.Follows.accounted`.
* `BulkPlan.Accounted.covers`, `BulkPlan.Accounted.mem_undelivered_iff`: what becomes of an item.
-/

namespace EntitySearch

/-! ## The account -/

/-- What an engine has acknowledged for a job, and the items reported as undelivered. -/
structure Account where
  acknowledged : List Operation := []
  undelivered : List WorkItem := []

/-- The items that a failure reports as undelivered. Documents that are written but not visible to
searches are delivered. -/
def BulkFailure.undelivered (failure : BulkFailure) : List WorkItem :=
  match failure.kind with
  | .submission | .rejected => failure.items
  | .refresh => []

theorem BulkFailure.mem_undelivered {failure : BulkFailure} {item : WorkItem} :
    item ∈ failure.undelivered ↔ failure.kind ≠ .refresh ∧ item ∈ failure.items := by
  unfold undelivered
  cases failure.kind <;> simp

/-- What the ledger of a job says of its items. -/
def Ledger.account (ledger : Ledger) : Account where
  acknowledged := ledger.acknowledged
  undelivered := ledger.published.flatMap (·.undelivered)

/-- The account of a job that has ended: what the engine has answered in the end, if it has answered
at all, decides what was acknowledged and what is reported. -/
structure BulkPlan.Accounted (plan : BulkPlan) (assumed : List Operation → BulkResponse → Prop)
    (items : List WorkItem) (answer : Option BulkResponse) (account : Account) : Prop where
  assumed : ∀ response, answer = some response → assumed plan.operations response
  acknowledged : account.acknowledged =
    (answer.map (·.acknowledged plan.operations)).getD []
  undelivered : account.undelivered = plan.unresolved ++
    match answer with
    | some response => plan.rejected response.rejections
    | none => if plan.entries.isEmpty then [] else items

/-! ## The ledger of a course -/

variable {assumed : List Operation → BulkResponse → Prop} {account : Account}

namespace JobCourse

variable {plan : BulkPlan} {items : List WorkItem}

theorem undelivered_hidden (invisible : Option (Exhausted EngineError)) :
    (hidden items invisible).flatMap (·.undelivered) = [] := by
  cases invisible <;> rfl

theorem undelivered_reports {course : JobCourse}
    (sent : plan.entries.isEmpty = true ↔ course = .unsent) :
    (course.reports plan items).flatMap (·.undelivered) =
      match course.response? with
      | some response => plan.rejected response.rejections
      | none => if plan.entries.isEmpty then [] else items := by
  cases course with
  | unsent =>
    rw [response?, if_pos (sent.mpr rfl)]
    rfl
  | undelivered cause =>
    rw [response?, if_neg fun empty => nomatch sent.mp empty]
    exact List.append_nil items
  | delivered response invisible =>
    rw [reports, List.flatMap_append, undelivered_hidden, List.append_nil, response?]
    dsimp only
    by_cases success : response.isSuccess = true
    · rw [if_pos success, List.isEmpty_iff.mp success]
      rfl
    · rw [if_neg success, List.flatMap_singleton]
      rfl

end JobCourse

theorem BulkPlan.undelivered_dropped (plan : BulkPlan) :
    plan.dropped.flatMap (·.undelivered) = plan.unresolved := by
  unfold dropped
  by_cases empty : plan.unresolved.isEmpty = true
  · rw [if_pos empty, List.isEmpty_iff.mp empty]
    rfl
  · rw [if_neg empty, List.flatMap_singleton]
    rfl

/-- **The account of a job**: at most one answer counts, and it decides what was acknowledged and what
is reported as undelivered. -/
theorem BulkPlan.Follows.accounted {plan : BulkPlan} {items : List WorkItem} {course : JobCourse}
    {ledger : Ledger} (h : plan.Follows assumed items course ledger) :
    plan.Accounted assumed items course.response? ledger.account where
  assumed := h.assumed
  acknowledged := h.acknowledged
  undelivered := by
    rw [Ledger.account, h.published, List.flatMap_append, undelivered_dropped,
      JobCourse.undelivered_reports h.sent]

/-! ## What becomes of an item -/

namespace BulkPlan

variable {resolver : Resolver} {items : List WorkItem} {item : WorkItem}

theorem mem_unresolved :
    item ∈ (ofItems resolver items).unresolved ↔
      item ∈ items ∧ resolver.operation? item = none := by
  induction items with
  | nil => simp [ofItems]
  | cons first rest ih =>
    rw [ofItems]
    cases hd : resolver.descriptor first.entityType with
    | ok descriptor =>
      dsimp only
      rw [ih, List.mem_cons]
      refine ⟨fun h => ⟨.inr h.1, h.2⟩, fun h => ⟨h.1.resolve_left ?_, h.2⟩⟩
      rintro rfl
      simp [Resolver.operation?, hd] at h
    | error cause =>
      dsimp only
      rw [List.mem_cons, ih, List.mem_cons, or_and_right]
      refine or_congr_left (iff_self_and.mpr ?_)
      rintro rfl
      simp [Resolver.operation?, hd]

theorem of_mem_entries {operation : Operation}
    (h : (operation, item) ∈ (ofItems resolver items).entries) :
    item ∈ items ∧ resolver.operation? item = some operation := by
  induction items with
  | nil => cases h
  | cons first rest ih =>
    rw [ofItems] at h
    cases hd : resolver.descriptor first.entityType with
    | error cause =>
      rw [hd] at h
      exact ⟨List.mem_cons_of_mem _ (ih h).1, (ih h).2⟩
    | ok descriptor =>
      rw [hd] at h
      rcases List.mem_cons.mp h with he | h
      · cases he
        rw [Resolver.operation?, hd]
        exact ⟨List.mem_cons_self, rfl⟩
      · exact ⟨List.mem_cons_of_mem _ (ih h).1, (ih h).2⟩

theorem entry_of_mem {operation : Operation} (hm : item ∈ items)
    (ho : resolver.operation? item = some operation) :
    (operation, item) ∈ (ofItems resolver items).entries := by
  induction items with
  | nil => cases hm
  | cons first rest ih =>
    rw [ofItems]
    rcases List.mem_cons.mp hm with rfl | hm
    · rw [Resolver.operation?] at ho
      cases hd : resolver.descriptor item.entityType with
      | error cause =>
        rw [hd] at ho
        cases ho
      | ok descriptor =>
        rw [hd] at ho
        cases ho
        exact List.mem_cons_self
    · cases resolver.descriptor first.entityType with
      | error cause => exact ih hm
      | ok descriptor => exact List.mem_cons_of_mem _ (ih hm)

theorem mem_rejected {plan : BulkPlan} {response : BulkResponse} :
    item ∈ plan.rejected response.rejections ↔
      ∃ position operation, plan.entries[position]? = some (operation, item) ∧
        response.rejects position = true := by
  simp only [rejected, List.mem_filterMap, Option.map_eq_some_iff, BulkResponse.rejects,
    List.any_eq_true, decide_eq_true_eq, Prod.exists, exists_eq_right]
  constructor
  · rintro ⟨rejection, hr, operation, he⟩
    exact ⟨rejection.position, operation, he, rejection, hr, rfl⟩
  · rintro ⟨_, operation, he, rejection, hr, rfl⟩
    exact ⟨rejection, hr, operation, he⟩

namespace Accounted

variable {answer : Option BulkResponse}

/-- Every item of a job that has ended is acknowledged or reported. -/
theorem covers (h : (ofItems resolver items).Accounted assumed items answer account)
    (hm : item ∈ items) :
    item ∈ account.undelivered ∨
      ∃ operation, resolver.operation? item = some operation ∧ operation ∈ account.acknowledged := by
  rw [h.undelivered, h.acknowledged]
  cases ho : resolver.operation? item with
  | none => exact .inl (List.mem_append_left _ (mem_unresolved.mpr ⟨hm, ho⟩))
  | some operation =>
    have entry := entry_of_mem hm ho
    cases answer with
    | none =>
      refine .inl (List.mem_append_right _ ?_)
      dsimp only
      rw [if_neg fun he => List.not_mem_nil (List.isEmpty_iff.mp he ▸ entry)]
      exact hm
    | some response =>
      obtain ⟨position, hp⟩ := List.mem_iff_getElem?.mp entry
      by_cases hr : response.rejects position = true
      · exact .inl (List.mem_append_right _ (mem_rejected.mpr ⟨position, operation, hp, hr⟩))
      · refine .inr ⟨operation, rfl, BulkResponse.mem_acknowledged.mpr ⟨position, ?_, ?_⟩⟩
        · rw [operations, List.getElem?_map, hp]
          rfl
        · simpa using hr

/-- **What becomes of an item** if the engine rejects by identifier: it is reported as undelivered
exactly if its operation is not acknowledged. -/
theorem mem_undelivered_iff
    (h : (ofItems resolver items).Accounted BulkResponse.ById items answer account)
    (hm : item ∈ items) :
    item ∈ account.undelivered ↔
      ∀ operation, resolver.operation? item = some operation →
        operation ∉ account.acknowledged := by
  refine ⟨fun reported operation ho acknowledged => ?_, fun refused => ?_⟩
  · rw [h.acknowledged] at acknowledged
    rw [h.undelivered] at reported
    cases answer with
    | none => cases acknowledged
    | some response =>
      rcases List.mem_append.mp reported with reported | reported
      · rw [(mem_unresolved.mp reported).2] at ho
        cases ho
      · obtain ⟨position, own, hp, rejected⟩ := mem_rejected.mp reported
        have same := (of_mem_entries (List.mem_of_getElem? hp)).2
        rw [ho] at same
        cases same
        have there : (ofItems resolver items).operations[position]? = some operation := by
          rw [operations, List.getElem?_map, hp]
          rfl
        rw [Option.map_some, Option.getD_some,
          (h.assumed response rfl).mem_acknowledged_iff there, rejected] at acknowledged
        cases acknowledged
  · rcases h.covers hm with reported | ⟨operation, ho, acknowledged⟩
    · exact reported
    · exact absurd acknowledged (refused operation ho)

end Accounted

end BulkPlan

end EntitySearch

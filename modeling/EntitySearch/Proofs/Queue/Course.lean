import EntitySearch.Proofs.Engine.Acknowledged
import EntitySearch.Proofs.Procedure.Ensures
import EntitySearch.Queue.Writer

/-!
# The course of a job

Writing a job has two effects that others can see: the engine acknowledges operations, and failures
are published. The ledger of a job notes both. Whatever the engine answers, a job takes one of few
courses: there is nothing to send, or its request is not delivered, or it is, and is then perhaps not
made visible. The course decides what is published apart from the items without an operation, and
the last failure that it publishes decides how the job ends.

* `Ledger`: what was acknowledged and what was published.
* `JobCourse`, `JobCourse.reports`: the courses of a job, and what they publish.
* `BulkFailure.ending`: how a job ends.
* `BulkPlan.Follows`: the ledger of a job that has taken a course.
-/

namespace EntitySearch

/-! ## The ledger -/

/-- What an engine has acknowledged for a job, and the failures published for it. -/
structure Ledger where
  acknowledged : List Operation := []
  published : List BulkFailure := []

/-! ## Courses -/

/-- The course of a job. -/
inductive JobCourse where
  /-- There is nothing to send. -/
  | unsent
  /-- The engine does not take the request. -/
  | undelivered (cause : Exhausted EngineError)
  /-- The engine takes the request, but what is written may not become visible. -/
  | delivered (response : BulkResponse) (invisible : Option (Exhausted EngineError))

/-- How a job ends that has published failures, apart from that of items without an operation. -/
def BulkFailure.ending (reports : List BulkFailure) : Except BridgeError Unit :=
  match reports.getLast? with
  | some failure => .error failure.error
  | none => .ok ()

@[simp] theorem BulkFailure.ending_append (reports : List BulkFailure) (failure : BulkFailure) :
    ending (reports ++ [failure]) = .error failure.error := by
  rw [ending, List.getLast?_concat]

theorem BulkFailure.ending_eq_ok {reports : List BulkFailure} :
    ending reports = .ok () ↔ reports = [] := by
  rw [← List.getLast?_eq_none_iff, ending]
  cases reports.getLast? <;> simp

theorem BulkFailure.ending_ne_notOpen {reports : List BulkFailure} :
    ending reports ≠ .error .notOpen := by
  unfold ending
  cases reports.getLast? with
  | none => nofun
  | some failure =>
    unfold BulkFailure.error
    dsimp only
    split <;> nofun

/-- The failure of a job that is written but not made visible. -/
def JobCourse.hidden (items : List WorkItem) : Option (Exhausted EngineError) → List BulkFailure
  | some cause => [⟨.refresh, cause.attempts, cause.error.message, items⟩]
  | none => []

namespace JobCourse

/-- The answer of the engine, if it takes the request. -/
def response? : JobCourse → Option BulkResponse
  | .unsent | .undelivered _ => none
  | .delivered response _ => some response

/-- The failures that a job publishes on a course. -/
def reports (plan : BulkPlan) (items : List WorkItem) : JobCourse → List BulkFailure
  | .unsent => []
  | .undelivered cause => [⟨.submission, cause.attempts, cause.error.message, items⟩]
  | .delivered response invisible =>
    (if response.isSuccess then [] else [Writer.rejection plan response.rejections]) ++
      hidden items invisible

end JobCourse

namespace BulkPlan

/-- The report of the items without an operation, if there are any. -/
def dropped (plan : BulkPlan) : List BulkFailure :=
  if plan.unresolved.isEmpty then [] else [Writer.unresolvedFailure plan.unresolved]

/-- The ledger of a job that has taken a course. -/
structure Follows (plan : BulkPlan) (assumed : List Operation → BulkResponse → Prop)
    (items : List WorkItem) (course : JobCourse) (ledger : Ledger) : Prop where
  sent : plan.entries.isEmpty = true ↔ course = .unsent
  assumed : ∀ response, course.response? = some response → assumed plan.operations response
  acknowledged : ledger.acknowledged =
    (course.response?.map (·.acknowledged plan.operations)).getD []
  published : ledger.published = plan.dropped ++ course.reports plan items

end BulkPlan

end EntitySearch

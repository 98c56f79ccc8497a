import EntitySearch.Proofs.Queue.Plan
import EntitySearch.Proofs.Queue.Stopping

/-!
# Items that a queue refuses

An item whose entity type is not known is refused, and so is every item once the queue is stopped.
This is found out before anything is done, so the queue stays as it is. Behind this point a queue whose
writer is at work takes the item: it waits behind the others, or it fills a batch, and then all that
wait make up a job.

* `Queue.enqueue_stopped`: items that come too late; `Queue.enqueue_unknown` is about the others.
* `Queue.contents_submit`: that a batch that is cut has the items that waited.
* `Queue.Takes`, `Queue.enqueue_takes`: what becomes of an item that is not refused.
* `Queue.Refuses`, `Queue.refuses_of_unfit`, `Queue.unfit_of_refused`: which items are refused, and
  what that does to a queue.
-/

namespace EntitySearch

namespace Queue

variable {queue : Queue} {resolver : Resolver} {now : Duration} {item : WorkItem}

/-! ## Refusals -/

/-- Whether a step has refused an item for a reason without doing anything. -/
structure Refuses (queue : Queue) (step : Submission) (cause : BridgeError) : Prop where
  result : step.result = .error cause
  untouched : step.queue = queue
  unmeasured : step.measurements = []

theorem enqueue_stopped (known : resolver.Knows item) (stopped : queue.stopped = true) :
    queue.enqueue resolver now item = ⟨.error .queueStopped, queue, []⟩ := by
  obtain ⟨descriptor, found⟩ := known
  unfold enqueue
  rw [found]
  exact if_pos stopped

/-- An item whose entity type is not known is refused, and so is every item by a stopped queue. -/
theorem refuses_of_unfit (queue : Queue) (resolver : Resolver) (now : Duration) (item : WorkItem) :
    (∀ cause, resolver.descriptor item.entityType = .error cause →
      queue.Refuses (queue.enqueue resolver now item) (.schema cause)) ∧
    (resolver.Knows item → queue.stopped = true →
      queue.Refuses (queue.enqueue resolver now item) .queueStopped) := by
  constructor
  · intro cause unknown
    rw [enqueue_unknown unknown]
    exact ⟨rfl, rfl, rfl⟩
  · intro known stopped
    rw [enqueue_stopped known stopped]
    exact ⟨rfl, rfl, rfl⟩

/-! ## Items that are not refused -/

/-- Whether a step has taken an item, in a queue that goes on as before. -/
structure Takes (queue : Queue) (item : WorkItem) (step : Submission) : Prop where
  result : ∃ job, step.result = .ok job
  /-- Nobody waits unless the queue is strict. -/
  unawaited : queue.strict = false → step.result = .ok none
  contents : step.queue.contents = queue.contents ++ [item]
  strict : step.queue.strict = queue.strict
  stopped : step.queue.stopped = queue.stopped
  writer : step.queue.writerGone = queue.writerGone

theorem submit_unawaited (writer : queue.writerGone = false) (running : ¬ queue.stopped = true)
    (now : Duration) (reason : FlushReason) :
    (queue.submit now reason false).result = .ok none := by
  rw [submit_eq]
  unfold send
  rw [if_neg running]
  split
  · rfl
  · simp [writer]

/-- Cutting a batch moves the items that wait into a job. -/
theorem contents_submit (writer : queue.writerGone = false) (running : ¬ queue.stopped = true)
    (now : Duration) (reason : FlushReason) (wait : Bool) :
    (queue.submit now reason wait).queue.contents = queue.contents := by
  have nothing := (items_take queue.pending now reason).2
  rw [submit_eq]
  unfold send
  rw [if_neg running]
  split
  · next idle =>
    rw [Bool.and_eq_true, List.isEmpty_iff] at idle
    have empty : queue.pending.items = [] := idle.1
    simp [contents, nothing, empty]
  · simp [writer, contents, nothing, Job.itemsOf]

/-- **An item that is not refused** is taken, if the writer is at work. -/
theorem enqueue_takes (writer : queue.writerGone = false) (running : queue.stopped = false)
    (known : resolver.Knows item) : queue.Takes item (queue.enqueue resolver now item) := by
  have going : ¬ queue.stopped = true := by simp [running]
  obtain ⟨cut, cuts⟩ := enqueue_cuts queue resolver now item
  have kept := stopped_enqueue queue resolver now item
  let pushed : Queue := { queue with pending := (queue.pending.push now item).1 }
  have pushed_contents : pushed.contents = queue.contents ++ [item] := by
    simp [pushed, contents, items_push]
  rcases queue.enqueue_cases resolver now item with ⟨unfit, -⟩ | ⟨-, step⟩
  · exact absurd ⟨known, running⟩ unfit
  cases full : (queue.pending.push now item).2 with
  | none =>
    rw [full] at step
    refine ⟨?_, ?_, ?_, cuts.strict, kept, cuts.writer⟩ <;> rw [step]
    · exact ⟨none, rfl⟩
    · exact fun _ => rfl
    · exact pushed_contents
  | some reason =>
    rw [full] at step
    refine ⟨?_, ?_, ?_, cuts.strict, kept, cuts.writer⟩ <;> rw [step]
    · exact @submit_ok pushed writer going now reason queue.strict
    · intro relaxed
      change (pushed.submit now reason queue.strict).result = _
      rw [relaxed]
      exact @submit_unawaited pushed writer going now reason
    · exact (@contents_submit pushed writer going now reason queue.strict).trans pushed_contents

/-- While the writer is at work no other items are refused. -/
theorem unfit_of_refused (writer : queue.writerGone = false) {cause : BridgeError}
    (refused : (queue.enqueue resolver now item).result = .error cause) :
    ¬ resolver.Knows item ∨ queue.stopped = true := by
  by_contra fit
  rw [not_or, not_not, Bool.not_eq_true] at fit
  have takes : queue.Takes item (queue.enqueue resolver now item) :=
    enqueue_takes writer fit.2 fit.1
  obtain ⟨job, taken⟩ := takes.result
  rw [taken] at refused
  cases refused

end Queue

end EntitySearch

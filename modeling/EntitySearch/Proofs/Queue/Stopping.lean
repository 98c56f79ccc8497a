import EntitySearch.Proofs.Queue.Conservation
import EntitySearch.Proofs.Search.Opened

/-!
# Stopping a queue

Only one step stops a queue. It cuts a last job, for which the caller waits; afterwards callers and the
timer change nothing any more, so that nothing is left of a stopped queue once its writer has nothing
left to do.

* `Queue.stopped_perform`, `Queue.stopped_beginStop`: which steps stop a queue.
* `Queue.perform_stopped`: that a stopped queue stays as it is.
* `Queue.Over`: a stopped queue of which nothing is left; `Queue.Over.contents`.
* `Queue.result_perform`, `Queue.refused_enqueue`: what steps say.
-/

namespace EntitySearch

namespace Queue

variable {queue : Queue} {number : Nat}

/-! ## What stops a queue -/

theorem stopped_send (queue : Queue) (items : List WorkItem) (reason : FlushReason) (wait : Bool) :
    (queue.send items reason wait).queue.stopped = queue.stopped := by
  unfold send
  split
  · rfl
  split
  · rfl
  dsimp only
  split <;> rfl

theorem stopped_submit (queue : Queue) (now : Duration) (reason : FlushReason) (wait : Bool) :
    (queue.submit now reason wait).queue.stopped = queue.stopped := by
  unfold submit
  dsimp only
  exact stopped_send _ _ _ _

theorem stopped_enqueue (queue : Queue) (resolver : Resolver) (now : Duration) (item : WorkItem) :
    (queue.enqueue resolver now item).queue.stopped = queue.stopped := by
  unfold enqueue
  cases resolver.descriptor item.entityType with
  | error cause => rfl
  | ok descriptor =>
    dsimp only
    split
    · rfl
    rcases queue.pending.push now item with ⟨pending, full⟩
    cases full with
    | none => rfl
    | some reason => exact stopped_submit _ now reason _

theorem stopped_tick (queue : Queue) (now : Duration) :
    (queue.tick now).queue.stopped = queue.stopped := by
  unfold tick
  rcases queue.pending.takeIfReady now with ⟨pending, batch⟩
  cases batch with
  | none => rfl
  | some batch => exact stopped_send _ _ _ _

/-- No other step stops a queue, or lets it take items again. -/
theorem stopped_perform (queue : Queue) (resolver : Resolver) (now : Duration)
    {action : QueueAction} (other : action ≠ .beginStop) :
    (queue.perform resolver now action).queue.stopped = queue.stopped := by
  cases action with
  | enqueue item => exact stopped_enqueue queue resolver now item
  | flush => exact stopped_submit queue now .manual queue.strict
  | flushAndWait => exact stopped_submit queue now .manual true
  | tick => exact stopped_tick queue now
  | beginStop => exact absurd rfl other

theorem stopped_beginStop (queue : Queue) (now : Duration) :
    (queue.beginStop now).queue.stopped = true := by
  unfold beginStop
  split
  · next stopped => exact stopped
  · rfl

theorem result_beginStop (writer : queue.writerGone = false) (running : queue.stopped = false)
    (now : Duration) : ∃ job, (queue.beginStop now).result = .ok (some job) := by
  have going : ¬ queue.stopped = true := by simp [running]
  have present : ¬ queue.writerGone = true := by simp [writer]
  unfold beginStop
  rw [if_neg going]
  unfold submit send
  dsimp only
  rw [if_neg going, Bool.not_true, Bool.and_false, if_neg Bool.false_ne_true]
  rw [if_neg present]
  exact ⟨queue.nextJob, rfl⟩

/-! ## A stopped queue -/

theorem takeIfReady_nil {batcher : Batcher WorkItem} (empty : batcher.items = []) (now : Duration) :
    (batcher.takeIfReady now).2 = none := by
  rcases hr : batcher.takeIfReady now with ⟨pending, batch⟩
  cases batch with
  | none => rfl
  | some batch => exact absurd empty (items_takeIfReady hr).2.2

/-- Callers and the timer do not change a stopped queue any more. -/
theorem perform_stopped (h : queue.Sound) (stopped : queue.stopped = true) (resolver : Resolver)
    (now : Duration) (action : QueueAction) :
    (queue.perform resolver now action).queue = queue := by
  cases action with
  | enqueue item =>
    change (queue.enqueue resolver now item).queue = queue
    unfold enqueue
    cases resolver.descriptor item.entityType with
    | error cause => rfl
    | ok descriptor =>
      dsimp only
      rw [if_pos stopped]
  | flush => exact congrArg QueueStep.queue (submit_stopped h stopped now .manual queue.strict)
  | flushAndWait => exact congrArg QueueStep.queue (submit_stopped h stopped now .manual true)
  | tick =>
    have none := takeIfReady_nil (h.empty stopped) now
    change (queue.tick now).queue = queue
    unfold tick
    rcases hr : queue.pending.takeIfReady now with ⟨pending, batch⟩
    rw [hr] at none
    cases none
    rfl
  | beginStop =>
    change (queue.beginStop now).queue = queue
    unfold beginStop
    rw [if_pos stopped]

/-- A stopped queue whose writer has nothing left to do. -/
structure Over (queue : Queue) : Prop where
  stopped : queue.stopped = true
  waiting : queue.waiting = []
  writing : queue.writing = none

theorem over_of_isDrained (h : queue.Sound) (stopped : queue.stopped = true)
    (drained : queue.isDrained = true) : queue.Over := by
  unfold isDrained at drained
  rw [h.writer, Bool.false_or, Bool.and_eq_true, List.isEmpty_iff, Option.isNone_iff_eq_none]
    at drained
  exact ⟨stopped, drained.1, drained.2⟩

namespace Over

theorem startNext (h : queue.Over) : queue.startNext = none := by
  rw [Queue.startNext, h.waiting, h.writing]

/-- Everything that such a queue has accepted is in completed jobs. -/
theorem contents (h : queue.Over) (sound : queue.Sound) :
    queue.contents = Job.itemsOf (queue.completed.map (·.1)) := by
  rw [Queue.contents, h.waiting, h.writing, sound.empty h.stopped]
  simp [Job.itemsOf]

end Over

/-! ## What steps say -/

theorem result_send (queue : Queue) (items : List WorkItem) (reason : FlushReason) (wait : Bool)
    {cause : BridgeError} (h : (queue.send items reason wait).result = .error cause) :
    cause = .queueStopped := by
  unfold send at h
  split at h
  · cases h
    rfl
  split at h
  · cases h
  dsimp only at h
  split at h <;> cases h
  rfl

theorem result_submit (queue : Queue) (now : Duration) (reason : FlushReason) (wait : Bool)
    {cause : BridgeError} (h : (queue.submit now reason wait).result = .error cause) :
    cause = .queueStopped := by
  unfold submit at h
  exact result_send _ _ _ _ h

/-- An item is refused because its entity type is not known, or because the queue is stopped. -/
theorem refused_enqueue (queue : Queue) (resolver : Resolver) (now : Duration) (item : WorkItem)
    {cause : BridgeError} (h : (queue.enqueue resolver now item).result = .error cause) :
    cause = .queueStopped ∨
      ∃ unknown, resolver.descriptor item.entityType = .error unknown ∧ cause = .schema unknown := by
  unfold enqueue at h
  cases hd : resolver.descriptor item.entityType with
  | error unknown =>
    rw [hd] at h
    cases h
    exact .inr ⟨unknown, rfl, rfl⟩
  | ok descriptor =>
    rw [hd] at h
    dsimp only at h
    split at h
    · cases h
      exact .inl rfl
    rcases hp : queue.pending.push now item with ⟨pending, full⟩
    rw [hp] at h
    cases full with
    | none => cases h
    | some reason => exact .inl (result_submit _ now reason _ h)

/-- No step says that a bridge is not open. -/
theorem result_perform (queue : Queue) (resolver : Resolver) (now : Duration)
    (action : QueueAction) : Opened (queue.perform resolver now action).result := by
  intro h
  cases action with
  | enqueue item =>
    rcases refused_enqueue queue resolver now item h with same | ⟨unknown, -, same⟩ <;> cases same
  | flush => cases result_submit queue now .manual queue.strict h
  | flushAndWait => cases result_submit queue now .manual true h
  | tick =>
    change (queue.tick now).result = _ at h
    unfold tick at h
    split at h
    · cases result_send _ _ _ _ h
    · dsimp only at h
      split at h <;> cases h
  | beginStop =>
    change (queue.beginStop now).result = _ at h
    unfold beginStop at h
    split at h
    · cases h
    · cases result_submit queue now .shutdown true h

end Queue

end EntitySearch

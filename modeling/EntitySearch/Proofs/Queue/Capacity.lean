import EntitySearch.Proofs.Queue.Plan
import EntitySearch.Proofs.Queue.Requests
import EntitySearch.Proofs.Queue.Steps

/-!
# How large a batch may get

A batch is cut by the step that fills it, and by no other step for this reason: the items that wait
are fewer than would fill a batch, and an item that is taken either leaves it so or fills the batch,
which is taken away before anybody else can see it. So no job has more items than a batch, and since
a job without items is not sent to the engine, no request is made for nothing.

* `BatchLimits.capacity`: how many items fill a batch.
* `Queue.Fits`, `Queue.Within`: a queue whose jobs have no more items, and one with no full batch.
* `Queue.Within.enqueue_cases`: what becomes of an item that is handed to a queue.
* `Queue.Within.perform`, `Queue.Within.startNext`, `Queue.Within.finish`, `Queue.Within.breakDown`:
  every step keeps it so.
* `Queue.Within.count_iff`: which steps cut a full batch; `Queue.Within.full`: what is cut then.
* `Writer.write_asks_filled`: the requests of a job to the engine.
-/

namespace EntitySearch

/-- How many items fill a batch: at least one, whatever is set up. -/
def BatchLimits.capacity (limits : BatchLimits) : Nat := max 1 limits.flushCount

theorem BatchLimits.capacity_pos (limits : BatchLimits) : 0 < limits.capacity :=
  Nat.lt_of_lt_of_le Nat.one_pos (Nat.le_max_left _ _)

namespace Batcher

variable {batcher : Batcher WorkItem} {now : Duration}

theorem limits_take (batcher : Batcher WorkItem) (now : Duration) (reason : FlushReason) :
    (batcher.take now reason).1.limits = batcher.limits := by
  unfold take
  split <;> rfl

theorem isFull_iff (some : batcher.items ≠ []) :
    batcher.isFull = true ↔ batcher.limits.capacity ≤ batcher.size := by
  have pos : 0 < batcher.items.length := List.length_pos_of_ne_nil some
  rw [isFull, decide_eq_true_iff, BatchLimits.capacity, size]
  omega

theorem full_push (batcher : Batcher WorkItem) (now : Duration) (item : WorkItem) :
    (batcher.push now item).2 =
      if batcher.limits.capacity ≤ batcher.size + 1 then some .count else none := by
  have some : (batcher.push now item).1.items ≠ [] := by
    rw [Queue.items_push]
    exact List.append_ne_nil_of_right_ne_nil _ (List.cons_ne_nil item [])
  have full := isFull_iff some
  rw [size, Queue.items_push, List.length_append, List.length_singleton] at full
  exact if_congr full rfl rfl

theorem takeIfReady_eq (few : batcher.size < batcher.limits.capacity) (now : Duration) :
    batcher.takeIfReady now =
      if batcher.isDue now then batcher.take now .time else (batcher, none) := by
  unfold takeIfReady
  by_cases none : batcher.items = []
  · have empty : batcher.isEmpty = true := List.isEmpty_iff.mpr none
    rw [isDue, empty, take, if_pos empty, Bool.not_true, Bool.false_and, if_neg Bool.false_ne_true]
    exact ite_self _
  · rw [if_neg fun full => Nat.not_le.mpr few ((isFull_iff none).mp full)]

end Batcher

namespace Queue

variable {queue : Queue} {limits : BatchLimits} {resolver : Resolver} {now : Duration}
  {item : WorkItem}

/-- Whether the jobs of a queue, and what waits in it, are no more than a batch each. A job without
items is there for somebody who waits for it. -/
structure Fits (queue : Queue) (limits : BatchLimits) : Prop where
  setUp : queue.pending.limits = limits
  pending : queue.pending.size ≤ limits.capacity
  jobs : ∀ job ∈ queue.jobs,
    job.items.length ≤ limits.capacity ∧ (job.items = [] → job.awaited = true)

/-- Whether what waits in a queue is less than a batch, too. -/
structure Within (queue : Queue) (limits : BatchLimits) : Prop extends queue.Fits limits where
  few : queue.pending.size < limits.capacity

theorem within_start (settings : QueueSettings) : (start settings).Within settings.limits :=
  ⟨⟨rfl, Nat.zero_le _, nofun⟩, settings.limits.capacity_pos⟩

/-! ## Sending a batch -/

theorem jobs_send {items : List WorkItem} {reason : FlushReason} {wait : Bool} {job : Job}
    (h : job ∈ (queue.send items reason wait).queue.jobs) :
    job ∈ queue.jobs ∨ job.items = items ∧ (job.items = [] → job.awaited = true) := by
  unfold send at h
  split at h
  · exact .inl h
  split at h
  · exact .inl h
  · next made =>
    dsimp only at h
    split at h
    · exact .inl h
    · rw [jobs, ← List.append_assoc] at h
      rcases List.mem_append.mp h with h | h
      · exact .inl h
      · rw [List.mem_singleton.mp h]
        refine .inr ⟨rfl, fun none => ?_⟩
        have some : ¬ (items = [] ∧ wait = false) := by simpa using made
        simpa using fun unawaited => some ⟨none, unawaited⟩

theorem flush_mem_send {items : List WorkItem} {reason : FlushReason} {wait : Bool} {name : String}
    {n : Nat} :
    Measurement.flush name n ∈ (queue.send items reason wait).measurements ↔
      queue.stopped = false ∧ items ≠ [] ∧ name = reason.name ∧ n = items.length := by
  unfold send
  by_cases stopped : queue.stopped = true
  · simp [stopped]
  rw [if_neg stopped, Bool.eq_false_iff.mpr stopped]
  by_cases nothing : (items.isEmpty && !wait) = true
  · simp only [Bool.and_eq_true, List.isEmpty_iff] at nothing
    simp [nothing.1, nothing.2]
  rw [if_neg nothing]
  dsimp only
  split <;> simp

theorem waiting_send (running : queue.stopped = false) (present : queue.writerGone = false)
    {items : List WorkItem} (some : items ≠ []) (reason : FlushReason) (wait : Bool) :
    (queue.send items reason wait).queue.waiting =
      queue.waiting ++ [⟨queue.nextJob, items, wait⟩] := by
  have nonempty : ¬ (items.isEmpty && !wait) = true := by simp [some]
  rw [send, if_neg (Bool.eq_false_iff.mp running), if_neg nonempty]
  dsimp only
  rw [if_neg (Bool.eq_false_iff.mp present)]

theorem Fits.send (h : queue.Fits limits) {items : List WorkItem}
    (few : items.length ≤ limits.capacity) (reason : FlushReason) (wait : Bool) :
    (queue.send items reason wait).queue.Fits limits := by
  have same := pending_send queue items reason wait
  refine ⟨same ▸ h.setUp, same ▸ h.pending, fun job hj => ?_⟩
  rcases jobs_send hj with hj | ⟨rfl, awaited⟩
  · exact h.jobs job hj
  · exact ⟨few, awaited⟩

theorem Fits.submit (h : queue.Fits limits) (now : Duration) (reason : FlushReason) (wait : Bool) :
    (queue.submit now reason wait).queue.Within limits := by
  have none := pending_submit queue now reason wait
  have fits : { queue with pending := (queue.pending.take now reason).1 }.Fits limits := by
    refine ⟨(Batcher.limits_take _ _ _).trans h.setUp, ?_, h.jobs⟩
    rw [Batcher.size, (items_take queue.pending now reason).2]
    exact Nat.zero_le _
  refine ⟨submit_eq queue now reason wait ▸ fits.send h.pending reason wait, ?_⟩
  rw [Batcher.size, none]
  exact limits.capacity_pos

theorem flush_mem_submit {reason : FlushReason} {wait : Bool} {name : String} {n : Nat} :
    Measurement.flush name n ∈ (queue.submit now reason wait).measurements ↔
      queue.stopped = false ∧ queue.pending.items ≠ [] ∧ name = reason.name ∧
        n = queue.pending.size := by
  rw [submit_eq, flush_mem_send]
  rfl

theorem waiting_submit (running : queue.stopped = false) (present : queue.writerGone = false)
    (some : queue.pending.items ≠ []) (reason : FlushReason) (wait : Bool) :
    (queue.submit now reason wait).queue.waiting =
      queue.waiting ++ [⟨queue.nextJob, queue.pending.items, wait⟩] := by
  rw [submit_eq]
  exact @waiting_send { queue with pending := (queue.pending.take now reason).1 } running present _
    some reason wait

/-! ## Taking an item -/

/-- **What becomes of an item** that is handed to a queue: it is refused, or it leaves room in the
batch, or it fills the batch and all that waits is submitted. -/
theorem Within.enqueue_cases (h : queue.Within limits) (resolver : Resolver) (now : Duration)
    (item : WorkItem) :
    (¬ (resolver.Knows item ∧ queue.stopped = false) ∧
      ∃ cause, queue.enqueue resolver now item = ⟨.error cause, queue, []⟩) ∨
    (resolver.Knows item ∧ queue.stopped = false) ∧
      let pushed := { queue with pending := (queue.pending.push now item).1 }
      (queue.pending.size + 1 < limits.capacity ∧
        queue.enqueue resolver now item = ⟨.ok none, pushed, [.pending pushed.pending.size]⟩) ∨
      (queue.pending.size + 1 = limits.capacity ∧
        queue.enqueue resolver now item = pushed.submit now .count queue.strict) := by
  refine (queue.enqueue_cases resolver now item).imp_right ?_
  rintro ⟨taken, eq⟩
  refine ⟨taken, ?_⟩
  have few := h.few
  rw [Batcher.full_push, h.setUp] at eq
  by_cases full : limits.capacity ≤ queue.pending.size + 1
  · rw [if_pos full] at eq
    exact .inr ⟨by omega, eq⟩
  · rw [if_neg full] at eq
    exact .inl ⟨by omega, eq⟩

theorem Within.push (h : queue.Within limits) (now : Duration) (item : WorkItem) :
    { queue with pending := (queue.pending.push now item).1 }.Fits limits := by
  refine ⟨h.setUp, ?_, h.jobs⟩
  rw [Batcher.size, items_push, List.length_append, List.length_singleton]
  exact h.few

/-- A tick finds no full batch; it submits what has waited long enough. -/
theorem Within.tick_cases (h : queue.Within limits) (now : Duration) :
    (∃ result, queue.tick now = ⟨result, queue, []⟩) ∨
      queue.tick now = queue.submit now .time false := by
  have few := h.few
  rw [← h.setUp] at few
  unfold tick
  rw [Batcher.takeIfReady_eq few]
  by_cases due : queue.pending.isDue now = true
  · rw [if_pos due]
    have some : ¬ queue.pending.isEmpty = true := by
      rw [Batcher.isDue, Bool.and_eq_true, Bool.not_eq_true'] at due
      simp [due.1]
    refine .inr ?_
    rw [submit_eq, Batcher.take, if_neg some]
  · rw [if_neg due]
    exact .inl ⟨_, rfl⟩

/-! ## Every step -/

/-- **No step of a caller or of the timer** lets a batch grow larger than it may be. -/
theorem Within.perform (h : queue.Within limits) (resolver : Resolver) (now : Duration)
    (action : QueueAction) : (queue.perform resolver now action).queue.Within limits := by
  have submits := fun reason wait => h.toFits.submit now reason wait
  cases action with
  | enqueue item =>
    change (queue.enqueue resolver now item).queue.Within limits
    obtain ⟨-, cause, eq⟩ | ⟨-, ⟨room, eq⟩ | ⟨-, eq⟩⟩ := h.enqueue_cases resolver now item
    · rw [eq]
      exact h
    · rw [eq]
      refine ⟨h.push now item, ?_⟩
      rw [Batcher.size, items_push, List.length_append, List.length_singleton]
      exact room
    · rw [eq]
      exact (h.push now item).submit now .count queue.strict
  | flush => exact submits .manual queue.strict
  | flushAndWait => exact submits .manual true
  | tick =>
    change (queue.tick now).queue.Within limits
    obtain ⟨result, eq⟩ | eq := h.tick_cases now
    · rw [eq]
      exact h
    · rw [eq]
      exact submits .time false
  | beginStop =>
    change (queue.beginStop now).queue.Within limits
    unfold beginStop
    split
    · exact h
    · have stops := submits .shutdown true
      exact ⟨⟨stops.setUp, stops.pending, stops.jobs⟩, stops.few⟩

theorem Within.startNext (h : queue.Within limits) {job : Job} {next : Queue}
    (started : queue.startNext = some (job, next)) : next.Within limits ∧ job ∈ queue.jobs := by
  have same := jobs_startNext started
  obtain ⟨waiting, free, first, rfl⟩ := startNext_eq_some started
  refine ⟨⟨⟨h.setUp, h.pending, same ▸ h.jobs⟩, h.few⟩, ?_⟩
  rw [jobs, first]
  exact List.mem_append_right _ List.mem_cons_self

theorem Within.finish (h : queue.Within limits) (outcome : Except BridgeError Unit) :
    (queue.finish outcome).Within limits := by
  have same := pending_finish queue outcome
  have jobs := jobs_finish queue outcome
  exact ⟨⟨same ▸ h.setUp, same ▸ h.pending, jobs ▸ h.jobs⟩, same ▸ h.few⟩

theorem Within.breakDown (h : queue.Within limits) : queue.breakDown.Within limits := by
  refine ⟨⟨h.setUp, h.pending, fun job hj => h.jobs job ?_⟩, h.few⟩
  simp only [Queue.jobs, Queue.breakDown, Option.toList_none, List.append_nil] at hj
  exact List.mem_append_left _ (List.mem_append_left _ hj)

/-! ## Full batches -/

theorem count_not_mem_submit {reason : FlushReason} (other : reason ≠ .count) {wait : Bool}
    {n : Nat} : Measurement.flush FlushReason.count.name n ∉
      (queue.submit now reason wait).measurements := by
  intro cut
  obtain ⟨-, -, name, -⟩ := flush_mem_submit.mp cut
  cases reason with
  | count => exact other rfl
  | _ => exact absurd name (by decide)

/-- **A full batch is cut** by the step that takes the item which fills it, and by no other one. -/
theorem Within.count_iff (h : queue.Within limits) {action : QueueAction} {n : Nat} :
    Measurement.flush FlushReason.count.name n ∈
        (queue.perform resolver now action).measurements ↔
      n = limits.capacity ∧ queue.stopped = false ∧ queue.pending.size + 1 = limits.capacity ∧
        ∃ item, action = .enqueue item ∧ resolver.Knows item := by
  have foreign : (∀ item, action ≠ .enqueue item) →
      Measurement.flush FlushReason.count.name n ∉
        (queue.perform resolver now action).measurements →
      (Measurement.flush FlushReason.count.name n ∈
          (queue.perform resolver now action).measurements ↔
        n = limits.capacity ∧ queue.stopped = false ∧ queue.pending.size + 1 = limits.capacity ∧
          ∃ item, action = .enqueue item ∧ resolver.Knows item) :=
    fun other none => iff_of_false none fun ⟨_, _, _, item, own, _⟩ => other item own
  cases action with
  | enqueue item =>
    change Measurement.flush _ n ∈ (queue.enqueue resolver now item).measurements ↔ _
    obtain ⟨refused, cause, eq⟩ | ⟨⟨known, running⟩, ⟨room, eq⟩ | ⟨full, eq⟩⟩ :=
      h.enqueue_cases resolver now item
    · rw [eq]
      refine iff_of_false List.not_mem_nil ?_
      rintro ⟨-, running, -, own, same, known⟩
      cases same
      exact refused ⟨known, running⟩
    · rw [eq]
      refine iff_of_false (by simp) ?_
      rintro ⟨-, -, full, -⟩
      omega
    · rw [eq, flush_mem_submit, Batcher.size, items_push, List.length_append, List.length_singleton]
      change (queue.stopped = false ∧ _ ∧ _ ∧ n = queue.pending.size + 1) ↔ _
      rw [full]
      constructor
      · rintro ⟨-, -, -, rfl⟩
        exact ⟨rfl, running, rfl, item, rfl, known⟩
      · rintro ⟨rfl, -⟩
        exact ⟨running, by simp, rfl, rfl⟩
  | flush => exact foreign nofun (count_not_mem_submit (by decide))
  | flushAndWait => exact foreign nofun (count_not_mem_submit (by decide))
  | tick =>
    refine foreign nofun ?_
    change _ ∉ (queue.tick now).measurements
    obtain ⟨result, eq⟩ | eq := h.tick_cases now
    · rw [eq]
      exact List.not_mem_nil
    · rw [eq]
      exact count_not_mem_submit (by decide)
  | beginStop =>
    refine foreign nofun ?_
    change _ ∉ (queue.beginStop now).measurements
    unfold beginStop
    split
    · exact List.not_mem_nil
    · exact count_not_mem_submit (by decide)

/-- What fills a batch is handed to the writer, if there is one, with all that has waited before. -/
theorem Within.full (h : queue.Within limits) {item : WorkItem} (known : resolver.Knows item)
    (running : queue.stopped = false) (full : queue.pending.size + 1 = limits.capacity) :
    (queue.enqueue resolver now item).queue.pending.items = [] ∧
      (queue.writerGone = false → (queue.enqueue resolver now item).queue.waiting =
        queue.waiting ++ [⟨queue.nextJob, queue.pending.items ++ [item], queue.strict⟩]) := by
  obtain ⟨refused, -⟩ | ⟨-, ⟨room, -⟩ | ⟨-, eq⟩⟩ := h.enqueue_cases resolver now item
  · exact absurd ⟨known, running⟩ refused
  · omega
  · rw [eq]
    refine ⟨pending_submit _ _ _ _, fun present => ?_⟩
    have some : queue.pending.items ++ [item] ≠ [] :=
      List.append_ne_nil_of_right_ne_nil _ (List.cons_ne_nil item [])
    exact @waiting_submit { queue with pending := (queue.pending.push now item).1 } now running
      present some .count queue.strict

end Queue

/-! ## The requests of a job -/

/-- Whether a request to the engine, if it is a bulk request, writes something, and at most a given
number of operations. -/
def Call.Filled (n : Nat) : Call → Prop
  | .bulk operations => operations ≠ [] ∧ operations.length ≤ n
  | _ => True

/-- Whether a request that is made of the engine is such. -/
def Link.Fills (n : Nat) : Link.Request → Prop
  | .call call | .callWithin _ call => call.Filled n
  | _ => True

/-- Whether a request that is made for a job is such. -/
def Writing.Fills (n : Nat) : Writing.Request → Prop
  | .inl request => Link.Fills n request
  | .inr _ => True

namespace Writer

variable {n : Nat}

/-- **No request is made for nothing**: a bulk request that is made for a job has an operation, and
no more than the job has items. -/
theorem write_asks_filled (writer : Writer) (resolver : Resolver) {items : List WorkItem}
    (few : items.length ≤ n) :
    (writer.write resolver items).Asks (Writing.Fills n) fun _ => True := by
  have length : (BulkPlan.ofItems resolver items).operations.length ≤ n := by
    rw [BulkPlan.operations_ofItems]
    exact Nat.le_trans (List.length_filterMap_le _ _) few
  have retried : ∀ {call : Call}, call.Filled n → ∀ policy operation,
      (Link.retried policy operation call).Asks (Link.Fills n) fun _ => True := fun filled =>
    Link.asks_retried filled (fun _ => trivial) (fun _ => trivial) trivial
  have refreshes := @retried (.refresh (BulkPlan.ofItems resolver items).indices) trivial
    writer.refreshPolicy "refresh"
  have iff := @write_asks_allowed_iff (Writing.Fills n) (fun _ _ => trivial) (fun _ => trivial) writer
    items resolver refreshes
  refine iff.mpr (or_iff_not_imp_left.mpr fun some => ?_)
  have filled : (Call.bulk (BulkPlan.ofItems resolver items).operations).Filled n :=
    ⟨fun none => some (List.map_eq_nil_iff.mp none), length⟩
  exact retried filled _ _

end Writer

end EntitySearch

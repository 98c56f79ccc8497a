import EntitySearch.Queue.Client
import Mathlib.Tactic.Common

/-!
# The steps of a queue

The items that a queue has accepted are in its jobs, in the order in which these were cut, and in
its batcher. A step of a caller or of the timer takes at most one item and cuts at most one job off
the front of what waits; a step of the writer moves a job on.

* `Queue.jobs`, `Queue.contents`: the jobs in the order in which they were cut, and all items.
* `Queue.Sound`: what holds of a queue as long as its writer does not break down.
* `Queue.Cuts`: what a step of a caller does to a queue.
* `Queue.perform_cuts`: every step does that.
* `Queue.Sound.startNext`, `Queue.Sound.finish`: the steps of the writer.
-/

namespace EntitySearch

/-- The items of jobs, in the order of the jobs. -/
def Job.itemsOf (jobs : List Job) : List WorkItem := jobs.flatMap (·.items)

namespace QueueAction

/-- The item that a step takes, by the result of the step. -/
def accepted : QueueAction → Except BridgeError (Option Nat) → List WorkItem
  | .enqueue item, .ok _ => [item]
  | _, _ => []

/-- Whether somebody waits for a job that a step cuts. -/
def waits (strict : Bool) : QueueAction → Bool
  | .enqueue _ | .flush => strict
  | .flushAndWait | .beginStop => true
  | .tick => false

end QueueAction

namespace Queue

/-- All jobs, in the order in which they were cut. -/
def jobs (queue : Queue) : List Job :=
  queue.completed.map (·.1) ++ queue.writing.toList ++ queue.waiting

/-- All items: those of completed jobs, of the job that is written and of the jobs that wait, and
those that wait for a batch. -/
def contents (queue : Queue) : List WorkItem :=
  Job.itemsOf (queue.completed.map (·.1)) ++ Job.itemsOf queue.writing.toList ++
    Job.itemsOf queue.waiting ++ queue.pending.items

theorem contents_eq (queue : Queue) :
    queue.contents = Job.itemsOf queue.jobs ++ queue.pending.items := by
  simp only [contents, jobs, Job.itemsOf, List.flatMap_append]

/-- What holds of a queue as long as its writer does not break down. -/
structure Sound (queue : Queue) : Prop where
  writer : queue.writerGone = false
  /-- A stopped queue has nothing left to cut. -/
  empty : queue.stopped = true → queue.pending.items = []
  /-- Jobs are numbered in the order in which they were cut. -/
  numbers : queue.jobs.map (·.number) = List.range queue.nextJob
  /-- The jobs that are not completed are counted. -/
  inFlight : queue.inFlight = (queue.writing.toList ++ queue.waiting).length

theorem sound_start (settings : QueueSettings) : (start settings).Sound := ⟨rfl, nofun, rfl, rfl⟩

/-- What a step of a caller does to a queue: it cuts the jobs `cut`, for which somebody waits if
`wait` says so. In a sound queue it takes the items `taken`, which wait behind those that waited
before, and the jobs get what is in front. -/
structure Cuts (queue : Queue) (step : Submission) (taken : List WorkItem) (wait : Bool)
    (cut : List Job) : Prop where
  strict : step.queue.strict = queue.strict
  writer : step.queue.writerGone = queue.writerGone
  completed : step.queue.completed = queue.completed
  writing : step.queue.writing = queue.writing
  waiting : step.queue.waiting = queue.waiting ++ cut
  nextJob : step.queue.nextJob = queue.nextJob + cut.length
  inFlight : step.queue.inFlight = queue.inFlight + cut.length
  numbers : cut.map (·.number) = List.range' queue.nextJob cut.length
  result : ∀ job ∈ cut, step.result = .ok (if wait then some job.number else none)
  items : queue.Sound → queue.pending.items ++ taken = Job.itemsOf cut ++ step.queue.pending.items
  empty : queue.Sound → step.queue.stopped = true → step.queue.pending.items = []

variable {queue : Queue} {wait : Bool}

theorem Cuts.unchanged (result : Except BridgeError (Option Nat))
    (measurements : List Measurement) : queue.Cuts ⟨result, queue, measurements⟩ [] wait [] where
  strict := rfl
  writer := rfl
  completed := rfl
  writing := rfl
  waiting := (List.append_nil _).symm
  nextJob := rfl
  inFlight := rfl
  numbers := rfl
  result := nofun
  items _ := List.append_nil _
  empty h := h.empty

/-! ## Sending a batch -/

/-- Items that a step has moved from the batcher to the writer make up the job that is cut. -/
theorem send_cuts {pending : Batcher WorkItem} {items taken : List WorkItem}
    (moved : queue.Sound → ¬ queue.stopped = true ∧
      queue.pending.items ++ taken = items ++ pending.items)
    (reason : FlushReason) :
    ∃ cut, queue.Cuts ({ queue with pending }.send items reason wait) taken wait cut := by
  unfold send
  by_cases hs : queue.stopped = true
  · rw [if_pos hs]
    exact ⟨[], rfl, rfl, rfl, rfl, (List.append_nil _).symm, rfl, rfl, rfl, nofun,
      fun h => absurd hs (moved h).1, fun h => absurd hs (moved h).1⟩
  rw [if_neg hs]
  by_cases he : (items.isEmpty && !wait) = true
  · rw [if_pos he]
    simp only [Bool.and_eq_true, List.isEmpty_iff] at he
    refine ⟨[], rfl, rfl, rfl, rfl, (List.append_nil _).symm, rfl, rfl, rfl, nofun, ?_, ?_⟩
    · intro h
      rw [(moved h).2, he.1]
      rfl
    · exact fun _ stopped => absurd stopped hs
  rw [if_neg he]
  dsimp only
  by_cases hg : queue.writerGone = true
  · rw [if_pos hg]
    have gone : ∀ {P : Prop}, queue.Sound → P := by
      intro P h
      rw [h.writer] at hg
      cases hg
    exact ⟨[], rfl, rfl, rfl, rfl, (List.append_nil _).symm, rfl, rfl, rfl, nofun, gone, gone⟩
  · rw [if_neg hg]
    refine ⟨[⟨queue.nextJob, items, wait⟩], rfl, rfl, rfl, rfl, rfl, rfl, rfl, rfl, ?_, ?_, ?_⟩
    · intro job hj
      rw [List.mem_singleton.mp hj]
    · intro h
      rw [(moved h).2]
      simp [Job.itemsOf]
    · exact fun _ stopped => absurd stopped hs

theorem send_ok (writer : queue.writerGone = false) (running : ¬ queue.stopped = true)
    (items : List WorkItem) (reason : FlushReason) (wait : Bool) :
    ∃ job, (queue.send items reason wait).result = .ok job := by
  have present : ¬ queue.writerGone = true := by simp [writer]
  unfold send
  rw [if_neg running]
  by_cases he : (items.isEmpty && !wait) = true
  · rw [if_pos he]
    exact ⟨none, rfl⟩
  · rw [if_neg he]
    dsimp only
    rw [if_neg present]
    exact ⟨_, rfl⟩

theorem pending_send (queue : Queue) (items : List WorkItem) (reason : FlushReason)
    (wait : Bool) : (queue.send items reason wait).queue.pending = queue.pending := by
  unfold send
  split
  · rfl
  split
  · rfl
  dsimp only
  split <;> rfl

/-! ## Cutting a batch -/

theorem items_take (batcher : Batcher WorkItem) (now : Duration) (reason : FlushReason) :
    (((batcher.take now reason).2.map (·.items)).getD []) = batcher.items ∧
      (batcher.take now reason).1.items = [] := by
  unfold Batcher.take Batcher.isEmpty
  by_cases he : batcher.items.isEmpty = true
  · rw [if_pos he]
    rw [List.isEmpty_iff] at he
    exact ⟨he.symm, he⟩
  · rw [if_neg he]
    exact ⟨rfl, rfl⟩

theorem submit_eq (queue : Queue) (now : Duration) (reason : FlushReason) (wait : Bool) :
    queue.submit now reason wait =
      { queue with pending := (queue.pending.take now reason).1 }.send queue.pending.items reason
        wait := by
  unfold submit
  dsimp only
  rw [(items_take queue.pending now reason).1]

theorem pending_submit (queue : Queue) (now : Duration) (reason : FlushReason) (wait : Bool) :
    (queue.submit now reason wait).queue.pending.items = [] := by
  rw [submit_eq, pending_send]
  exact (items_take queue.pending now reason).2

/-- A submission cuts all items that wait, the ones just taken among them. -/
theorem submit_cuts {pending : Batcher WorkItem} {taken : List WorkItem}
    (running : queue.Sound → ¬ queue.stopped = true)
    (moved : pending.items = queue.pending.items ++ taken) (now : Duration) (reason : FlushReason) :
    ∃ cut, queue.Cuts ({ queue with pending }.submit now reason wait) taken wait cut := by
  obtain ⟨hi, he⟩ := items_take pending now reason
  unfold submit
  dsimp only
  refine send_cuts (fun h => ⟨running h, ?_⟩) reason
  rw [hi, he, moved, List.append_nil]

theorem submit_ok (writer : queue.writerGone = false) (running : ¬ queue.stopped = true)
    (now : Duration) (reason : FlushReason) (wait : Bool) :
    ∃ job, (queue.submit now reason wait).result = .ok job :=
  @send_ok { queue with pending := (queue.pending.take now reason).1 } writer running _ reason wait

theorem submit_stopped (h : queue.Sound) (stopped : queue.stopped = true) (now : Duration)
    (reason : FlushReason) (wait : Bool) :
    queue.submit now reason wait = ⟨.error .queueStopped, queue, []⟩ := by
  have empty : queue.pending.isEmpty = true := by
    rw [Batcher.isEmpty, h.empty stopped]
    rfl
  unfold submit Batcher.take
  rw [if_pos empty]
  exact if_pos stopped

theorem submit_cuts_none (queue : Queue) (now : Duration) (reason : FlushReason) (wait : Bool) :
    ∃ cut, queue.Cuts (queue.submit now reason wait) [] wait cut := by
  by_cases h : queue.Sound ∧ queue.stopped = true
  · rw [submit_stopped h.1 h.2]
    exact ⟨[], .unchanged _ _⟩
  · exact submit_cuts (fun hs stopped => h ⟨hs, stopped⟩) (List.append_nil _).symm now reason

/-! ## Every step of a caller -/

theorem items_push (batcher : Batcher WorkItem) (now : Duration) (item : WorkItem) :
    (batcher.push now item).1.items = batcher.items ++ [item] := rfl

theorem enqueue_cuts (queue : Queue) (resolver : Resolver) (now : Duration) (item : WorkItem) :
    ∃ cut, queue.Cuts (queue.enqueue resolver now item)
      ((QueueAction.enqueue item).accepted (queue.enqueue resolver now item).result)
      queue.strict cut := by
  unfold enqueue
  cases resolver.descriptor item.entityType with
  | error cause => exact ⟨[], .unchanged _ _⟩
  | ok descriptor =>
    dsimp only
    by_cases stopped : queue.stopped = true
    · rw [if_pos stopped]
      exact ⟨[], .unchanged _ _⟩
    rw [if_neg stopped]
    have pushed := items_push queue.pending now item
    rcases hp : queue.pending.push now item with ⟨pending, full⟩
    rw [hp] at pushed
    cases full with
    | none =>
      exact ⟨[], rfl, rfl, rfl, rfl, (List.append_nil _).symm, rfl, rfl, rfl, nofun,
        fun _ => pushed.symm, fun _ hs => absurd hs stopped⟩
    | some reason =>
      obtain ⟨cut, hc⟩ :=
        @submit_cuts queue queue.strict pending _ (fun _ => stopped) pushed now reason
      refine ⟨cut, { hc with items := fun h => ?_ }⟩
      obtain ⟨job, hj⟩ :=
        @submit_ok { queue with pending } h.writer stopped now reason queue.strict
      rw [hj]
      exact hc.items h

/-- A batch that is ready has all items that wait, of which there is at least one. -/
theorem items_takeIfReady {batcher pending : Batcher WorkItem} {now : Duration}
    {batch : Batch WorkItem} (h : batcher.takeIfReady now = (pending, some batch)) :
    batch.items = batcher.items ∧ pending.items = [] ∧ batcher.items ≠ [] := by
  have taken : ∀ reason, batcher.take now reason = (pending, some batch) →
      batch.items = batcher.items ∧ pending.items = [] ∧ batcher.items ≠ [] := by
    intro reason ht
    unfold Batcher.take at ht
    by_cases he : batcher.isEmpty = true
    · rw [if_pos he] at ht
      cases ht
    · rw [if_neg he] at ht
      cases ht
      exact ⟨rfl, rfl, fun hn => he (List.isEmpty_iff.mpr hn)⟩
  unfold Batcher.takeIfReady at h
  split at h
  · exact taken _ h
  split at h
  · exact taken _ h
  · cases h

theorem tick_cuts (queue : Queue) (now : Duration) :
    ∃ cut, queue.Cuts (queue.tick now) [] false cut := by
  unfold tick
  rcases hr : queue.pending.takeIfReady now with ⟨pending, batch⟩
  cases batch with
  | none => exact ⟨[], .unchanged _ _⟩
  | some batch =>
    obtain ⟨hi, he, hne⟩ := items_takeIfReady hr
    refine send_cuts (fun h => ⟨fun stopped => hne (h.empty stopped), ?_⟩) batch.reason
    rw [hi, he]

theorem beginStop_cuts (queue : Queue) (now : Duration) :
    ∃ cut, queue.Cuts (queue.beginStop now) [] true cut := by
  unfold beginStop
  by_cases stopped : queue.stopped = true
  · rw [if_pos stopped]
    exact ⟨[], .unchanged _ _⟩
  · rw [if_neg stopped]
    obtain ⟨cut, hc⟩ := submit_cuts_none queue now .shutdown true
    exact ⟨cut, { hc with empty := fun _ _ => pending_submit queue now .shutdown true }⟩

/-- **What a step of a caller does**: the items that wait and the one that is taken are those of the
jobs that are cut and those that wait then, in this order. -/
theorem perform_cuts (queue : Queue) (resolver : Resolver) (now : Duration)
    (action : QueueAction) :
    ∃ cut, queue.Cuts (queue.perform resolver now action)
      (action.accepted (queue.perform resolver now action).result) (action.waits queue.strict)
      cut := by
  cases action with
  | enqueue item => exact enqueue_cuts queue resolver now item
  | flush => exact submit_cuts_none queue now .manual queue.strict
  | flushAndWait => exact submit_cuts_none queue now .manual true
  | tick => exact tick_cuts queue now
  | beginStop => exact beginStop_cuts queue now

variable {step : Submission} {taken : List WorkItem} {cut : List Job}

theorem Cuts.jobs (h : queue.Cuts step taken wait cut) : step.queue.jobs = queue.jobs ++ cut := by
  rw [Queue.jobs, Queue.jobs, h.completed, h.writing, h.waiting, List.append_assoc,
    List.append_assoc, List.append_assoc]

theorem Cuts.sound (h : queue.Cuts step taken wait cut) (hs : queue.Sound) : step.queue.Sound where
  writer := h.writer.trans hs.writer
  empty := h.empty hs
  numbers := by
    rw [h.jobs, List.map_append, hs.numbers, h.numbers, h.nextJob, List.range_eq_range',
      List.range_eq_range']
    have hr := @List.range'_append_1 0 queue.nextJob cut.length
    rwa [Nat.zero_add] at hr
  inFlight := by
    rw [h.inFlight, hs.inFlight, h.writing, h.waiting, ← List.append_assoc]
    exact List.length_append.symm

theorem Cuts.contents (h : queue.Cuts step taken wait cut) (hs : queue.Sound) :
    step.queue.contents = queue.contents ++ taken := by
  rw [contents_eq, contents_eq, h.jobs, Job.itemsOf, List.flatMap_append, List.append_assoc,
    List.append_assoc, h.items hs]
  rfl

/-! ## The steps of the writer -/

theorem startNext_eq_some {job : Job} {next : Queue} (h : queue.startNext = some (job, next)) :
    ∃ waiting, queue.writing = none ∧ queue.waiting = job :: waiting ∧
      next = { queue with waiting, writing := some job } := by
  unfold startNext at h
  split at h
  · next first waiting hw hq =>
    split at h
    · cases h
    · cases h
      exact ⟨waiting, hw, hq, rfl⟩
  · cases h

theorem present_of_startNext {job : Job} {next : Queue} (h : queue.startNext = some (job, next)) :
    queue.writerGone = false := by
  unfold startNext at h
  split at h
  · split at h
    · cases h
    · next hg => simpa using hg
  · cases h

theorem jobs_startNext {job : Job} {next : Queue} (h : queue.startNext = some (job, next)) :
    next.jobs = queue.jobs := by
  obtain ⟨waiting, hw, hq, rfl⟩ := startNext_eq_some h
  simp [jobs, hw, hq]

theorem startNext_frame {job : Job} {next : Queue} (h : queue.startNext = some (job, next)) :
    next.strict = queue.strict ∧ next.writerGone = queue.writerGone ∧
      next.nextJob = queue.nextJob := by
  obtain ⟨waiting, -, -, rfl⟩ := startNext_eq_some h
  exact ⟨rfl, rfl, rfl⟩

theorem writing_startNext {job : Job} {next : Queue} (h : queue.startNext = some (job, next)) :
    queue.writing = none ∧ next.writing = some job ∧ next.completed = queue.completed := by
  obtain ⟨waiting, hw, -, rfl⟩ := startNext_eq_some h
  exact ⟨hw, rfl, rfl⟩

theorem Sound.startNext (hs : queue.Sound) {job : Job} {next : Queue}
    (h : queue.startNext = some (job, next)) : next.Sound := by
  have hj := jobs_startNext h
  obtain ⟨waiting, hw, hq, rfl⟩ := startNext_eq_some h
  refine ⟨hs.writer, hs.empty, by rw [hj]; exact hs.numbers, ?_⟩
  have counted := hs.inFlight
  rwa [hw, hq] at counted

theorem contents_startNext {job : Job} {next : Queue} (h : queue.startNext = some (job, next)) :
    next.contents = queue.contents := by
  rw [contents_eq, contents_eq, jobs_startNext h]
  obtain ⟨waiting, -, -, rfl⟩ := startNext_eq_some h
  rfl

theorem jobs_finish (queue : Queue) (outcome : Except BridgeError Unit) :
    (queue.finish outcome).jobs = queue.jobs := by
  unfold finish
  split
  · next job hw => simp [jobs, hw]
  · rfl

theorem completed_finish {job : Job} (h : queue.writing = some job)
    (outcome : Except BridgeError Unit) :
    (queue.finish outcome).completed = queue.completed ++ [(job, outcome)] := by
  rw [finish, h]

theorem writing_finish (queue : Queue) (outcome : Except BridgeError Unit) :
    (queue.finish outcome).writing = none := by
  unfold finish
  split
  · rfl
  · next hw => exact hw

theorem finish_frame (queue : Queue) (outcome : Except BridgeError Unit) :
    (queue.finish outcome).strict = queue.strict ∧
      (queue.finish outcome).writerGone = queue.writerGone ∧
      (queue.finish outcome).nextJob = queue.nextJob := by
  unfold finish
  split <;> exact ⟨rfl, rfl, rfl⟩

theorem pending_finish (queue : Queue) (outcome : Except BridgeError Unit) :
    (queue.finish outcome).pending = queue.pending := by
  unfold finish
  split <;> rfl

theorem Sound.inFlight_finish (hs : queue.Sound) {job : Job} (h : queue.writing = some job)
    (outcome : Except BridgeError Unit) :
    (queue.finish outcome).inFlight + 1 = queue.inFlight ∧
      (queue.finish outcome).inFlight = queue.waiting.length := by
  have counted := hs.inFlight
  rw [h, Option.toList_some, List.singleton_append, List.length_cons] at counted
  rw [Queue.finish, h]
  dsimp only
  omega

theorem Sound.finish (hs : queue.Sound) (outcome : Except BridgeError Unit) :
    (queue.finish outcome).Sound := by
  have hj := jobs_finish queue outcome
  have hp := pending_finish queue outcome
  refine ⟨?_, ?_, ?_, ?_⟩
  · unfold Queue.finish
    split <;> exact hs.writer
  · rw [hp]
    unfold Queue.finish
    split <;> exact hs.empty
  · rw [hj, hs.numbers]
    unfold Queue.finish
    split <;> rfl
  · cases hw : queue.writing with
    | none =>
      rw [Queue.finish, hw]
      dsimp only
      rw [hs.inFlight, hw]
    | some job =>
      rw [(hs.inFlight_finish hw outcome).2, writing_finish, Queue.finish, hw]
      rfl

theorem contents_finish (queue : Queue) (outcome : Except BridgeError Unit) :
    (queue.finish outcome).contents = queue.contents := by
  rw [contents_eq, contents_eq, jobs_finish, pending_finish]

end Queue

end EntitySearch

import EntitySearch.Batcher
import EntitySearch.Error
import EntitySearch.Metrics
import EntitySearch.Retry
import EntitySearch.Schema.Registry
import EntitySearch.WorkItem

/-!
# The indexing queue

Accepted items wait in a batcher. A batch that is cut becomes a job; jobs are written one after
the other in the order in which they were cut. Every function here is one step that nothing else
can interrupt.

* `Job`: items that are written together.
* `Queue`: the items that wait, and the jobs.
* `Queue.enqueue`, `Queue.submit`, `Queue.tick`, `Queue.beginStop`: what callers and the timer do.
* `Queue.startNext`, `Queue.finish`, `Queue.breakDown`: what the writer does.
* `Queue.state`, `Queue.outcome?`: what can be observed.
-/

namespace EntitySearch

/-- How a queue is set up. -/
structure QueueSettings where
  limits : BatchLimits := {}
  /-- Whether every flush waits until its items are visible to searches. -/
  strict : Bool := false
  /-- The policy for bulk requests. -/
  bulkPolicy : RetryPolicy := .bulk
  /-- How many reports of failures are kept. -/
  failureCapacity : Nat := 64

/-- Items that are written together. -/
structure Job where
  number : Nat
  items : List WorkItem
  /-- Whether somebody waits for it. -/
  awaited : Bool

/-- What can be observed of a queue. -/
inductive QueueState where
  /-- Nothing waits and nothing is written. -/
  | idle
  /-- Items wait, and nothing is written. -/
  | accumulating
  /-- Jobs are written. -/
  | flushing
  /-- No more items are taken. -/
  | stopped
deriving DecidableEq

/-- The name of a state. -/
def QueueState.name : QueueState → String
  | .idle => "Idle"
  | .accumulating => "Accumulating"
  | .flushing => "Flushing"
  | .stopped => "Stopped"

/-- A queue. -/
structure Queue where
  strict : Bool
  /-- The items that wait for a batch. -/
  pending : Batcher WorkItem
  /-- Whether no more items are taken. -/
  stopped : Bool := false
  /-- The jobs that wait for the writer, the next one first. -/
  waiting : List Job := []
  /-- The job that is written. -/
  writing : Option Job := none
  /-- The jobs that were written, the first one first, and how they ended. -/
  completed : List (Job × Except BridgeError Unit) := []
  /-- How many jobs were handed to the writer and are not yet completed. -/
  inFlight : Nat := 0
  /-- Whether the writer has broken down. -/
  writerGone : Bool := false
  /-- The number of the next job. -/
  nextJob : Nat := 0

/-- A queue after a step, the result of the step, and what was measured. -/
structure QueueStep (α : Type) where
  result : α
  queue : Queue
  measurements : List Measurement := []

/-- The result of a step that may cut a batch: the number of the job to wait for, if any. -/
abbrev Submission := QueueStep (Except BridgeError (Option Nat))

namespace Queue

/-- A new queue. -/
def start (settings : QueueSettings) : Queue where
  strict := settings.strict
  pending := { limits := settings.limits }

/-! ## Cutting batches -/

/-- Hands the items of a batch to the writer. If `wait` is given, a job is made even of no items;
it completes when all earlier jobs are completed. -/
def send (queue : Queue) (items : List WorkItem) (reason : FlushReason) (wait : Bool) :
    Submission :=
  if queue.stopped then ⟨.error .queueStopped, queue, []⟩
  else if items.isEmpty && !wait then ⟨.ok none, queue, []⟩
  else
    let cut := if items.isEmpty then [] else [Measurement.flush reason.name items.length]
    if queue.writerGone then ⟨.error .queueStopped, queue, cut⟩
    else
      let number := queue.nextJob
      ⟨.ok (if wait then some number else none),
        { queue with
          waiting := queue.waiting ++ [⟨number, items, wait⟩]
          inFlight := queue.inFlight + 1
          nextJob := number + 1 },
        cut ++ [.pending 0]⟩

/-- Cuts a batch of all items that wait and hands it to the writer. -/
def submit (queue : Queue) (now : Duration) (reason : FlushReason) (wait : Bool) : Submission :=
  let (pending, batch) := queue.pending.take now reason
  let queue := { queue with pending }
  queue.send ((batch.map (·.items)).getD []) reason wait

/-- Takes an item. If there are enough items then, a batch is cut; a strict queue lets the caller
wait for it. -/
def enqueue (queue : Queue) (resolver : Resolver) (now : Duration) (item : WorkItem) : Submission :=
  match resolver.descriptor item.entityType with
  | .error cause => ⟨.error (.schema cause), queue, []⟩
  | .ok _ =>
    if queue.stopped then ⟨.error .queueStopped, queue, []⟩
    else
      let (pending, full) := queue.pending.push now item
      let queue := { queue with pending }
      match full with
      | some reason => queue.submit now reason queue.strict
      | none => ⟨.ok none, queue, [.pending pending.size]⟩

/-- Cuts a batch as a caller asks; a strict queue lets the caller wait for it. -/
def flush (queue : Queue) (now : Duration) : Submission := queue.submit now .manual queue.strict

/-- Cuts a batch as a caller asks, who waits for it and for all earlier jobs. -/
def flushAndWait (queue : Queue) (now : Duration) : Submission := queue.submit now .manual true

/-- Cuts a batch if it is ready. The timer goes on unless there is an error. -/
def tick (queue : Queue) (now : Duration) : Submission :=
  match queue.pending.takeIfReady now with
  | (pending, some batch) =>
    let queue := { queue with pending }
    queue.send batch.items batch.reason false
  | (_, none) => ⟨if queue.stopped then .error .queueStopped else .ok none, queue, []⟩

/-- Takes no more items from now on, and cuts a last batch, for which the caller waits. A queue
that is stopped already has nothing to wait for. -/
def beginStop (queue : Queue) (now : Duration) : Submission :=
  if queue.stopped then ⟨.ok none, queue, []⟩
  else
    let step := queue.submit now .shutdown true
    { step with queue := { step.queue with stopped := true } }

/-- Takes no more items and forgets those that wait for a batch. Jobs are still written. -/
def discard (queue : Queue) : Queue :=
  { queue with stopped := true, pending := { queue.pending with items := [], oldestAt := none } }

/-! ## Writing jobs -/

/-- The next job to write, if the writer is free. -/
def startNext (queue : Queue) : Option (Job × Queue) :=
  match queue.writing, queue.waiting with
  | none, job :: waiting =>
    if queue.writerGone then none else some (job, { queue with waiting, writing := some job })
  | _, _ => none

/-- Completes the job that is written. -/
def finish (queue : Queue) (outcome : Except BridgeError Unit) : Queue :=
  match queue.writing with
  | some job =>
    { queue with
      writing := none
      inFlight := queue.inFlight - 1
      completed := queue.completed ++ [(job, outcome)] }
  | none => queue

/-- The writer breaks down: no job is completed any more. -/
def breakDown (queue : Queue) : Queue :=
  { queue with writing := none, waiting := [], writerGone := true }

/-! ## Observing a queue -/

/-- How a job has ended. A job that a broken writer has not completed ends as if the queue were
stopped. -/
def outcome? (queue : Queue) (number : Nat) : Option (Except BridgeError Unit) :=
  match queue.completed.find? fun (job, _) => job.number == number with
  | some (_, outcome) => some outcome
  | none => if queue.writerGone then some (.error .queueStopped) else none

/-- Whether the writer has nothing left to do. -/
def isDrained (queue : Queue) : Bool :=
  queue.writerGone || (queue.waiting.isEmpty && queue.writing.isNone)

/-- The state of a queue. -/
def state (queue : Queue) : QueueState :=
  if queue.stopped then .stopped
  else if 0 < queue.inFlight then .flushing
  else if queue.pending.isEmpty then .idle
  else .accumulating

end Queue

end EntitySearch

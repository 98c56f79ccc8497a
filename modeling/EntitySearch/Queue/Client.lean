import EntitySearch.Procedure
import EntitySearch.Queue.Basic

/-!
# Using a queue

What callers of a queue do: one step on the queue, and after it, if there is something to wait
for, the wait.

* `QueueAction`: the steps that callers and the timer make.
* `Queueing`: steps, and waiting for a job or for the writer.
* `QueueClient.enqueue`, `QueueClient.flush`, `QueueClient.flushAndWait`, `QueueClient.stop`: the
  procedures.
-/

namespace EntitySearch

/-- A step on a queue. -/
inductive QueueAction where
  | enqueue (item : WorkItem)
  | flush
  | flushAndWait
  | tick
  | beginStop

/-- Makes a step on a queue. -/
def Queue.perform (queue : Queue) (resolver : Resolver) (now : Duration) :
    QueueAction → Submission
  | .enqueue item => queue.enqueue resolver now item
  | .flush => queue.flush now
  | .flushAndWait => queue.flushAndWait now
  | .tick => queue.tick now
  | .beginStop => queue.beginStop now

/-- What is asked of a queue. -/
inductive QueueRequest where
  /-- Makes a step. -/
  | perform (action : QueueAction)
  /-- Waits until a job has ended. -/
  | outcome (job : Nat)
  /-- Waits until the writer has nothing left to do. -/
  | drained

/-- Using a queue. -/
def Queueing : Protocol where
  Request := QueueRequest
  Reply
    | .perform _ => Except BridgeError (Option Nat)
    | .outcome _ => Except BridgeError Unit
    | .drained => Unit

namespace QueueClient

/-- Makes a request to a queue. -/
def ask (request : QueueRequest) : Procedure Queueing (Queueing.Reply request) :=
  .request (p := Queueing) request

/-- Makes a step and waits for its job, if it has one to wait for. -/
def submit (action : QueueAction) : Procedure Queueing (Except BridgeError Unit) := do
  match ← ask (.perform action) with
  | .error cause => return .error cause
  | .ok none => return .ok ()
  | .ok (some job) => ask (.outcome job)

/-- Hands an item to the queue. -/
def enqueue (item : WorkItem) : Procedure Queueing (Except BridgeError Unit) :=
  submit (.enqueue item)

/-- Cuts a batch; in a strict queue this waits until its items are visible to searches. -/
def flush : Procedure Queueing (Except BridgeError Unit) := submit .flush

/-- Cuts a batch and waits for it and for all earlier jobs. -/
def flushAndWait : Procedure Queueing (Except BridgeError Unit) := submit .flushAndWait

/-- Takes no more items, cuts a last batch, and waits for it and for the writer. A queue that is
stopped already is not waited for. -/
def stop : Procedure Queueing (Except BridgeError Unit) := do
  match ← ask (.perform .beginStop) with
  | .error cause => return .error cause
  | .ok none => return .ok ()
  | .ok (some job) =>
    let result : Except BridgeError Unit ← ask (.outcome job)
    ask .drained
    return result

/-- Hands items to the queue up to the first one that fails; counts them from `count` on. -/
def enqueueAll (count : Nat) : List WorkItem → Procedure Queueing (Except BridgeError Nat)
  | [] => return .ok count
  | item :: rest => do
    match ← enqueue item with
    | .error cause => return .error cause
    | .ok _ => enqueueAll (count + 1) rest

end QueueClient

end EntitySearch

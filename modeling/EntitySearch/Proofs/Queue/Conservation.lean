import EntitySearch.Proofs.Queue.Steps

/-!
# Nothing is lost in a queue

A queue makes its steps in any order: callers hand items to it, flush it and stop it, the timer
ticks, and the writer takes jobs and completes them. Whatever the order, the items of the completed
jobs, of the job that is written, of the jobs that wait and of the batcher are the accepted items in
the order in which they were accepted.

* `QueueEvent`: a step, with what it depends on.
* `Queue.run`, `Queue.accepted`: the queue after steps, and the items accepted by them.
* `Queue.contents_run`: the steps add the accepted items to the contents.
* `Queue.contents_eq_accepted`: the main result, for a new queue.
-/

namespace EntitySearch

/-- A step of a queue: one of a caller or of the timer, at some time and under the schema of that
moment, or one of the writer. -/
inductive QueueEvent where
  | perform (resolver : Resolver) (now : Duration) (action : QueueAction)
  /-- The writer takes the next job, if it is free and there is one. -/
  | startNext
  /-- The writer completes its job, if it has one. -/
  | finish (outcome : Except BridgeError Unit)

namespace Queue

/-- A queue after a step. -/
def after (queue : Queue) : QueueEvent → Queue
  | .perform resolver now action => (queue.perform resolver now action).queue
  | .startNext => ((queue.startNext).map (·.2)).getD queue
  | .finish outcome => queue.finish outcome

/-- A queue after steps. -/
def run (queue : Queue) (events : List QueueEvent) : Queue := events.foldl after queue

/-- The item that a step accepts: one that is handed to the queue and not refused. -/
def accepts (queue : Queue) : QueueEvent → List WorkItem
  | .perform resolver now action => action.accepted (queue.perform resolver now action).result
  | .startNext | .finish _ => []

/-- The items that steps accept, in the order in which they are accepted. -/
def accepted (queue : Queue) : List QueueEvent → List WorkItem
  | [] => []
  | event :: events => queue.accepts event ++ (queue.after event).accepted events

variable {queue : Queue}

theorem Sound.after (h : queue.Sound) (event : QueueEvent) : (queue.after event).Sound := by
  cases event with
  | perform resolver now action =>
    obtain ⟨cut, hc⟩ := perform_cuts queue resolver now action
    exact hc.sound h
  | startNext =>
    rw [Queue.after]
    cases hn : queue.startNext with
    | none => exact h
    | some started => exact h.startNext hn
  | finish outcome => exact h.finish outcome

/-- A step adds the item that it accepts to the contents, behind all others. -/
theorem contents_after (h : queue.Sound) (event : QueueEvent) :
    (queue.after event).contents = queue.contents ++ queue.accepts event := by
  cases event with
  | perform resolver now action =>
    obtain ⟨cut, hc⟩ := perform_cuts queue resolver now action
    exact hc.contents h
  | startNext =>
    rw [after, accepts, List.append_nil]
    cases hn : queue.startNext with
    | none => rfl
    | some started => exact contents_startNext hn
  | finish outcome => rw [after, accepts, List.append_nil, contents_finish]

/-- Steps add the items that they accept to the contents, in their order, and a queue that is
stopped after them has nothing left to cut. -/
theorem contents_run (events : List QueueEvent) : ∀ {queue : Queue}, queue.Sound →
    (queue.run events).Sound ∧
      (queue.run events).contents = queue.contents ++ queue.accepted events := by
  induction events with
  | nil => exact fun h => ⟨h, (List.append_nil _).symm⟩
  | cons event events ih =>
    intro queue h
    obtain ⟨hs, hc⟩ := ih (h.after event)
    refine ⟨hs, ?_⟩
    rw [run, List.foldl_cons, ← run, hc, contents_after h, accepted, List.append_assoc]

/-- **Nothing is lost, doubled or put out of order**, whatever steps a queue makes in whatever
order: its contents are the accepted items. Nothing waits for a batch once it is stopped. -/
theorem contents_eq_accepted (settings : QueueSettings) (events : List QueueEvent) :
    ((start settings).run events).contents = (start settings).accepted events ∧
      (((start settings).run events).stopped = true →
        ((start settings).run events).pending.items = []) := by
  obtain ⟨hs, hc⟩ := contents_run events (sound_start settings)
  exact ⟨hc, hs.empty⟩

end Queue

end EntitySearch

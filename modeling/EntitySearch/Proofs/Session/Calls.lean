import EntitySearch.Proofs.Session.Events

/-!
# Calls in a run

A caller of a queue makes a step on it and then, if there is something to wait for, waits. A call
that succeeds has waited until its job has ended well.

* `Session.job?`, `Session.waiting`, `Session.completed`: the jobs of a queue of a session.
* `Procedure.CarriedOut`: a procedure in the course of a run.
* `QueueCall`: the calls that may cut a batch and wait for it.
* `QueueCall.returns_of_carriedOut`: what a call has done, and how it ends.
* `QueueCall.succeeds_of_carriedOut`: what a call that succeeds has done.
-/

namespace EntitySearch

namespace Session

/-- The job that the writer of a queue is at work on. -/
def job? (session : Session) (number : Nat) : Option Job :=
  (session.queues[number]?).bind (·.queue.writing)

/-- The jobs of a queue that wait for its writer. -/
def waiting (session : Session) (number : Nat) : List Job :=
  ((session.queues[number]?).map (·.queue.waiting)).getD []

/-- The completed jobs of a queue. -/
def completed (session : Session) (number : Nat) : List (Job × Except BridgeError Unit) :=
  ((session.queues[number]?).map (·.queue.completed)).getD []

end Session

namespace Moment

/-- Whether a job is cut at a moment. -/
def Cuts (moment : Moment) (number : Nat) (job : Job) : Prop :=
  moment.after.waiting number = moment.before.waiting number ++ [job]

/-- Whether the writer of a queue completes a job at a moment. -/
def Completes (moment : Moment) (number : Nat) (job : Job) (outcome : Except BridgeError Unit) :
    Prop :=
  moment.event = .finish number ∧
    moment.after.completed number = moment.before.completed number ++ [(job, outcome)]

end Moment

/-! ## Procedures in a run -/

/-- Whether a procedure is carried out in the course of a run: its requests are made at the given
moments and get the replies of these, and it ends with a result. -/
inductive Procedure.CarriedOut {α : Type} : Procedure System α → List Moment → α → Prop
  | done (result : α) : CarriedOut (.done result) [] result
  | ask {request next reply moment moments result} (event : moment.event = .request request)
      (served : moment.before.serve? request = some (reply, moment.after))
      (rest : CarriedOut (next reply) moments result) :
      CarriedOut (.ask request next) (moment :: moments) result

namespace Procedure.CarriedOut

variable {α : Type} {own : List Moment} {result : α}

theorem of_ask {request : SystemRequest} {next : System.Reply request → Procedure System α}
    (h : CarriedOut (.ask request next) own result) :
    ∃ reply moment moments, own = moment :: moments ∧ moment.event = .request request ∧
      moment.before.serve? request = some (reply, moment.after) ∧
      CarriedOut (next reply) moments result := by
  cases h with
  | ask event served rest => exact ⟨_, _, _, rfl, event, served, rest⟩

end Procedure.CarriedOut

/-! ## Calls -/

/-- A call of a caller that may cut a batch. -/
inductive QueueCall where
  | enqueue (item : WorkItem)
  | flush
  | flushAndWait
  | stop

/-- What a caller does. -/
def QueueCall.procedure : QueueCall → Procedure Queueing (Except BridgeError Unit)
  | .enqueue item => QueueClient.enqueue item
  | .flush => QueueClient.flush
  | .flushAndWait => QueueClient.flushAndWait
  | .stop => QueueClient.stop

/-- The step of a call. -/
def QueueCall.action : QueueCall → QueueAction
  | .enqueue item => .enqueue item
  | .flush => .flush
  | .flushAndWait => .flushAndWait
  | .stop => .beginStop

namespace QueueCall

variable {number : Nat} {own : List Moment} {session later : Session}

theorem eq_of_wait (request : QueueRequest) {reply : Queueing.Reply request}
    (wait : ∀ action, request ≠ .perform action)
    (h : session.serve? (.queue number request) = some (reply, later)) : later = session := by
  change session.serveQueue? number request = some (reply, later) at h
  cases request with
  | perform action => exact absurd rfl (wait action)
  | outcome job =>
    simp only [Session.serveQueue?] at h
    split at h
    · cases h
      rfl
    · obtain ⟨outcome, -, ho⟩ := Option.map_eq_some_iff.mp h
      cases ho
      rfl
  | drained =>
    simp only [Session.serveQueue?] at h
    split at h
    · cases h
      rfl
    split at h
    · cases h
      rfl
    · cases h

/-- What a call has done: its step, and then, if there is a job to wait for, a wait until this job has
ended. The call ends as the job does. -/
structure Returns (call : QueueCall) (number : Nat) (first : Moment) (waits : List Moment)
    (reply : Except BridgeError (Option Nat)) (result : Except BridgeError Unit) : Prop where
  event : first.event = .request (.queue number (.perform call.action))
  served : first.before.serve? (.queue number (.perform call.action)) = some (reply, first.after)
  idle : ∀ moment ∈ waits, moment.after = moment.before
  refused : ∀ cause, reply = .error cause → result = .error cause
  awaited : ∀ job, reply = .ok (some job) → ∃ moment ∈ waits,
    moment.before.serve? (.queue number (.outcome job)) = some (result, moment.after)

variable {result : Except BridgeError Unit}

theorem Returns.at_once {call : QueueCall} {first : Moment} {waits : List Moment}
    {reply : Except BridgeError (Option Nat)} {ended : Except BridgeError Unit}
    (event : first.event = .request (.queue number (.perform call.action)))
    (served : first.before.serve? (.queue number (.perform call.action)) =
      some (reply, first.after))
    (nothing : ∀ job, reply ≠ .ok (some job))
    (refused : ∀ cause, reply = .error cause → ended = .error cause)
    (h : Procedure.CarriedOut (.done ended) waits result) :
    call.Returns number first waits reply result := by
  cases h
  exact ⟨event, served, List.forall_mem_nil _, refused, fun job hj => absurd hj (nothing job)⟩

theorem returns_submit {action : QueueAction} (call : QueueCall) (same : call.action = action)
    (h : ((QueueClient.submit action).expand (System.queueing number)).CarriedOut own result) :
    ∃ first waits reply, own = first :: waits ∧ call.Returns number first waits reply result := by
  subst same
  obtain ⟨reply, first, waits, rfl, event, served, rest⟩ :=
    @Procedure.CarriedOut.of_ask _ _ _ (.queue number (.perform call.action)) _ h
  refine ⟨first, waits, reply, rfl, ?_⟩
  rcases reply with cause | _ | job
  · exact .at_once event served nofun (fun _ hc => by cases hc; rfl) rest
  · exact .at_once event served nofun nofun rest
  · obtain ⟨outcome, wait, more, rfl, -, waited, last⟩ :=
      @Procedure.CarriedOut.of_ask _ _ _ (.queue number (.outcome job)) _ rest
    have ended : @Procedure.CarriedOut (Except BridgeError Unit) (.done outcome) more result := last
    cases ended
    refine ⟨event, served, fun moment hm => ?_, nofun, fun other ho => ?_⟩
    · cases List.mem_singleton.mp hm
      exact eq_of_wait (.outcome job) nofun waited
    · cases ho
      exact ⟨wait, List.mem_singleton_self wait, waited⟩

theorem returns_stop
    (h : (QueueClient.stop.expand (System.queueing number)).CarriedOut own result) :
    ∃ first waits reply, own = first :: waits ∧
      QueueCall.stop.Returns number first waits reply result := by
  obtain ⟨reply, first, waits, rfl, event, served, rest⟩ :=
    @Procedure.CarriedOut.of_ask _ _ _ (.queue number (.perform .beginStop)) _ h
  refine ⟨first, waits, reply, rfl, ?_⟩
  rcases reply with cause | _ | job
  · exact .at_once event served nofun (fun _ hc => by cases hc; rfl) rest
  · exact .at_once event served nofun nofun rest
  · obtain ⟨outcome, wait, more, rfl, -, waited, last⟩ :=
      @Procedure.CarriedOut.of_ask _ _ _ (.queue number (.outcome job)) _ rest
    obtain ⟨drained, drain, more, rfl, -, finished, last⟩ :=
      @Procedure.CarriedOut.of_ask _ _ _ (.queue number .drained) _ last
    have ended : @Procedure.CarriedOut (Except BridgeError Unit) (.done outcome) more result := last
    cases ended
    refine ⟨event, served, fun moment hm => ?_, nofun, fun other ho => ?_⟩
    · rcases List.mem_cons.mp hm with rfl | hm
      · exact eq_of_wait (.outcome job) nofun waited
      · cases List.mem_singleton.mp hm
        exact eq_of_wait .drained nofun finished
    · cases ho
      exact ⟨wait, List.mem_cons_self, waited⟩

/-- **A call** is its step and its waits. -/
theorem returns_of_carriedOut (call : QueueCall)
    (h : (call.procedure.expand (System.queueing number)).CarriedOut own result) :
    ∃ first waits reply, own = first :: waits ∧ call.Returns number first waits reply result := by
  cases call with
  | enqueue item => exact returns_submit (.enqueue item) rfl h
  | flush => exact returns_submit .flush rfl h
  | flushAndWait => exact returns_submit .flushAndWait rfl h
  | stop => exact returns_stop h

/-- What a call that succeeds has done: its step, and then, if there is a job to wait for, a wait
until this job has ended well. -/
structure Succeeds (call : QueueCall) (number : Nat) (first : Moment) (waits : List Moment)
    (reply : Except BridgeError (Option Nat)) : Prop where
  event : first.event = .request (.queue number (.perform call.action))
  served : first.before.serve? (.queue number (.perform call.action)) = some (reply, first.after)
  idle : ∀ moment ∈ waits, moment.after = moment.before
  awaited : ∀ job, reply = .ok (some job) → ∃ moment ∈ waits,
    moment.before.serve? (.queue number (.outcome job)) = some (.ok (), moment.after)

/-- A call that succeeds is its step and its waits. -/
theorem succeeds_of_carriedOut (call : QueueCall)
    (h : (call.procedure.expand (System.queueing number)).CarriedOut own (.ok ())) :
    ∃ first waits reply, own = first :: waits ∧ call.Succeeds number first waits reply := by
  obtain ⟨first, waits, reply, same, returns⟩ := returns_of_carriedOut call h
  exact ⟨first, waits, reply, same, returns.event, returns.served, returns.idle, returns.awaited⟩

theorem waits_action (call : QueueCall) : call.action.waits true = true := by
  cases call <;> rfl

end QueueCall

end EntitySearch

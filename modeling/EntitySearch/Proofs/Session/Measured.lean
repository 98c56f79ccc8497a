import EntitySearch.Proofs.Metrics.Series
import EntitySearch.Proofs.Session.Events

/-!
# What is measured in a session

Only two kinds of requests are measured: those that note a measurement, and the steps of queues. So
the metrics after a run are those before it with what its moments measure, one after the other.

* `Session.measured`, `Session.serve?_metrics`: what a request measures.
* `Moment.measured`, `Session.after?_metrics`: what a moment measures.
-/

namespace EntitySearch

/-- What a request measures. -/
def Session.measured (session : Session) : SystemRequest → List Measurement
  | .record measurement => [measurement]
  | .queue number (.perform action) =>
    match session.queues[number]? with
    | some host =>
      (host.queue.perform (session.resolver host.schema) session.batchClock action).measurements
    | none => []
  | _ => []

/-- What is measured at a moment. -/
def Moment.measured (moment : Moment) : List Measurement :=
  match moment.request? with
  | some request => moment.before.measured request
  | none => []

namespace Session

variable {session later : Session} {number : Nat}

theorem metrics_summon (session : Session) (task : TaskName) :
    (session.summon task).metrics = session.metrics := by
  unfold summon
  split <;> rfl

theorem metrics_summonWriter (session : Session) (number : Nat) :
    (session.summonWriter number).metrics = session.metrics := by
  unfold summonWriter
  split
  · rfl
  split
  · exact metrics_summon session _
  · rfl

theorem metrics_send (session : Session) (route : Route) (call : Call) :
    (session.send route call).2.metrics = session.metrics := by
  cases route with
  | nowhere address => rfl
  | engine =>
    unfold send
    dsimp only
    split
    · rfl
    split <;> rfl

theorem metrics_receive (session : Session) (call : Call) (delay : Duration) :
    (session.receive call delay).2.metrics = session.metrics := by
  unfold receive
  split <;> rfl

theorem metrics_perform (session : Session) (number : Nat) (action : QueueAction) :
    (session.perform number action).2.metrics =
      session.metrics.observeAll (session.measured (.queue number (.perform action))) := by
  unfold perform measured
  dsimp only
  cases session.queues[number]? with
  | none => rfl
  | some host =>
    dsimp only
    rw [metrics_summonWriter]
    rfl

theorem metrics_serveQueue? {request : QueueRequest} {reply : Queueing.Reply request}
    (h : session.serveQueue? number request = some (reply, later)) :
    later.metrics = session.metrics.observeAll (session.measured (.queue number request)) := by
  cases request with
  | perform action =>
    have hl := congrArg Prod.snd (Option.some.inj h)
    subst hl
    exact metrics_perform session number action
  | outcome job =>
    rw [eq_of_outcome h]
    rfl
  | drained =>
    rw [eq_of_drained h]
    rfl

theorem metrics_serveBridge? {request : BridgeRequest} {reply : Bridging.Reply request}
    (h : session.serveBridge? number request = some (reply, later)) :
    later.metrics = session.metrics := by
  have started : ∀ owner, (session.startQueueFor owner request).metrics = session.metrics := by
    intro owner
    unfold startQueueFor
    split
    · exact metrics_summon _ _
    · rfl
  unfold serveBridge? at h
  split at h
  · cases h
  split at h
  · cases h
  · cases h
    exact started _

theorem metrics_serveGuard? {request : GuardRequest} {reply : Guarding.Reply request}
    (h : session.serveGuard? number request = some (reply, later)) :
    later.metrics = session.metrics := by
  unfold serveGuard? at h
  split at h
  · cases h
  · obtain ⟨answer, -, ha⟩ := Option.map_eq_some_iff.mp h
    cases ha
    rfl

/-- **What a request does to the metrics**: it adds what it measures. -/
theorem serve?_metrics {request : SystemRequest} {reply : System.Reply request}
    (h : session.serve? request = some (reply, later)) :
    later.metrics = session.metrics.observeAll (session.measured request) := by
  cases request with
  | send route call =>
    have hl := congrArg Prod.snd (Option.some.inj h)
    subst hl
    exact metrics_send session route call
  | receive call delay =>
    have hl := congrArg Prod.snd (Option.some.inj h)
    subst hl
    exact metrics_receive session call delay
  | abandon => cases h
  | guard table request => exact metrics_serveGuard? h
  | queue number request => exact metrics_serveQueue? h
  | bridge number request => exact metrics_serveBridge? h
  | join task =>
    rw [eq_of_join h]
    rfl
  | _ =>
    cases h
    rfl

/-- **What a moment does to the metrics**: it adds what is measured. -/
theorem after?_metrics {event : SessionEvent} (h : session.after? event = some later) :
    later.metrics =
      session.metrics.observeAll (Moment.measured ⟨session, event, later⟩) := by
  cases event with
  | request request =>
    obtain ⟨reply, hs⟩ := after?_request h
    exact serve?_metrics hs
  | start queue =>
    obtain ⟨_, _, _, -, -, -, rfl⟩ := after?_start h
    rfl
  | write queue =>
    obtain ⟨request, next, reply, served, hw, hs, rfl⟩ := after?_write h
    have measured := serve?_metrics hs
    simp only [Moment.measured, Moment.request?, hw]
    exact measured
  | finish queue =>
    obtain ⟨_, -, rfl⟩ := after?_finish h
    rfl
  | breakDown queue =>
    obtain ⟨_, -, rfl⟩ := after?_breakDown h
    rfl
  | _ =>
    cases h
    rfl

end Session

end EntitySearch

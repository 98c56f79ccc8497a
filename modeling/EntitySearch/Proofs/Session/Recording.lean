import EntitySearch.Proofs.Queue.Course
import EntitySearch.Proofs.Session.Turn

/-!
# What a writer leaves behind

What the writer of a queue publishes in a run and what the engine acknowledges to it can be read off
the moments of the run. The session keeps the ledger of a job in this way, and what is left to do of
the job is known at every moment.

* `Moment.published`, `Moment.acknowledged`: what a moment adds to the ledger of a job.
* `Session.failures`, `Session.failures_serve?`: what is on the channel of a queue.
* `System.logging`: a session as surroundings that keep the ledger.
* `HostedQueue.Keeps`: what the rest of a job ensures; `HostedQueue.Keeps.turn`.
-/

namespace EntitySearch

/-! ## What is noted -/

/-- The operations that an answer to a bulk request acknowledges. -/
def BulkResponse.acknowledgedBy (operations : List Operation) : Outcome .bulk → List Operation
  | .ok response => BulkResponse.acknowledged response operations
  | .error _ => []

namespace SystemRequest

/-- The failures that a request publishes on the channel of a queue. -/
def published (number : Nat) : SystemRequest → List BulkFailure
  | .publish other failure => if other = number then [failure] else []
  | _ => []

/-- The operations that the reply to a request acknowledges. -/
def acknowledged : (request : SystemRequest) → System.Reply request → List Operation
  | .receive (.bulk operations) _, some outcome => BulkResponse.acknowledgedBy operations outcome
  | .send _ (.bulk operations), .answered outcome => BulkResponse.acknowledgedBy operations outcome
  | _, _ => []

/-- Whether the writer of a queue on a route may make a request for a job with some operations. -/
def OfWriter (route : Route) (number : Nat) (planned : List Operation) : SystemRequest → Prop
  | .send other (.bulk operations) => other = route ∧ operations = planned
  | .send other (.refresh _) => other = route
  | .receive (.bulk operations) _ => operations = planned
  | .receive (.refresh _) _ => True
  | .publish other _ => other = number
  | .sleep _ | .record _ | .abandon => True
  | _ => False

/-- Whether a reply answers a bulk request as is assumed of the answers. -/
def Honest (assumed : List Operation → BulkResponse → Prop) :
    (request : SystemRequest) → System.Reply request → Prop
  | .receive (.bulk operations) _, some (.ok response) => assumed operations response
  | .send _ (.bulk operations), .answered (.ok response) => assumed operations response
  | _, _ => True

end SystemRequest

namespace Moment

/-- The failures that the writer of a queue publishes at a moment. -/
def published (moment : Moment) (number : Nat) : List BulkFailure :=
  match moment.written? number with
  | some ⟨request, _⟩ => request.published number
  | none => []

/-- The operations that are acknowledged to the writer of a queue at a moment. -/
def acknowledged (moment : Moment) (number : Nat) : List Operation :=
  match moment.written? number with
  | some ⟨request, reply⟩ => request.acknowledged reply
  | none => []

/-- The failures that the writer of a queue publishes in a run. -/
def publishedIn (moments : List Moment) (number : Nat) : List BulkFailure :=
  moments.flatMap (·.published number)

/-- Whether the writer of a queue reports in a run that it could not write an item. -/
def Reports (moments : List Moment) (number : Nat) (item : WorkItem) : Prop :=
  ∃ failure ∈ publishedIn moments number, failure.kind ≠ .refresh ∧ item ∈ failure.items

/-- The operations that are acknowledged to the writer of a queue in a run. -/
def acknowledgedIn (moments : List Moment) (number : Nat) : List Operation :=
  moments.flatMap (·.acknowledged number)

end Moment

/-- The ledger after a request. -/
def Ledger.note (ledger : Ledger) (number : Nat) (request : SystemRequest)
    (reply : System.Reply request) : Ledger where
  acknowledged := ledger.acknowledged ++ request.acknowledged reply
  published := ledger.published ++ request.published number

/-- The ledger after a moment. -/
def Moment.log (moment : Moment) (number : Nat) (ledger : Ledger) : Ledger where
  acknowledged := ledger.acknowledged ++ moment.acknowledged number
  published := ledger.published ++ moment.published number

theorem Moment.log_of_written {moment : Moment} {number : Nat} {request : SystemRequest}
    {reply : System.Reply request} (h : moment.written? number = some ⟨request, reply⟩)
    (ledger : Ledger) : moment.log number ledger = ledger.note number request reply := by
  rw [log, acknowledged, published, h]
  rfl

theorem Moment.log_of_none {moment : Moment} {number : Nat} (h : moment.written? number = none)
    (ledger : Ledger) : moment.log number ledger = ledger := by
  rw [log, acknowledged, published, h]
  simp

/-! ## The channel of a queue -/

/-- The failures that were published on the channel of a queue. -/
def Session.failures (session : Session) (number : Nat) : List BulkFailure :=
  ((session.queues[number]?).map (·.failures.published)).getD []

namespace Session

variable {session later : Session} {number : Nat} {host : HostedQueue}

theorem failures_of_same (same : later.queues[number]? = session.queues[number]?) :
    later.failures number = session.failures number := by
  rw [failures, failures, same]

theorem failures_modifyQueue {change : HostedQueue → HostedQueue}
    (same : ∀ host, (change host).failures = host.failures) (other : Nat) :
    (session.modifyQueue other change).failures number = session.failures number := by
  rw [failures, failures, queues_modifyQueue]
  split
  · cases session.queues[number]? with
    | none => rfl
    | some host => exact congrArg FailureChannel.published (same host)
  · rfl

theorem failures_perform (session : Session) (other : Nat) (action : QueueAction) :
    (session.perform other action).2.failures number = session.failures number := by
  unfold perform
  split
  · rfl
  · next host _ =>
    let step := host.queue.perform (session.resolver host.schema) session.batchClock action
    have changed := @failures_modifyQueue session number
      (fun own => { own with queue := step.queue }) (fun _ => rfl) other
    refine (failures_of_same ?_).trans changed
    rw [queues_summonWriter]
    rfl

/-- **What a request does to the channel of a queue.** -/
theorem failures_serve? (hq : session.queues[number]? = some host) {request : SystemRequest}
    {reply : System.Reply request} (hs : session.serve? request = some (reply, later)) :
    later.failures number = session.failures number ++ request.published number := by
  have quiet : later.failures number = session.failures number → request.published number = [] →
      later.failures number = session.failures number ++ request.published number := by
    intro same none
    rw [same, none, List.append_nil]
  have still : later.queues = session.queues → later.failures number = session.failures number :=
    fun same => failures_of_same (by rw [same])
  cases request with
  | send route call =>
    have hl := congrArg Prod.snd (Option.some.inj hs)
    subst hl
    exact quiet (still (queues_send session route call)) rfl
  | receive call delay =>
    have hl := congrArg Prod.snd (Option.some.inj hs)
    subst hl
    exact quiet (still (queues_receive session call delay)) rfl
  | abandon => cases hs
  | guard table request => exact quiet (still (queues_serveGuard? hs)) rfl
  | publish other failure =>
    cases hs
    rw [SystemRequest.published]
    by_cases same : other = number
    · subst same
      have published := queue_modify hq fun own =>
        { own with failures := own.failures.publish failure }
      rw [failures, failures, publish, published, hq, if_pos rfl]
      rfl
    · have kept := queue_modify_other hq same fun own =>
        { own with failures := own.failures.publish failure }
      rw [if_neg same, List.append_nil]
      exact failures_of_same (kept.trans hq.symm)
  | queue other request =>
    cases request with
    | perform action =>
      have hl := congrArg Prod.snd (Option.some.inj hs)
      subst hl
      exact quiet (failures_perform session other action) rfl
    | outcome job => exact quiet (congrArg (failures · number) (eq_of_outcome hs)) rfl
    | drained => exact quiet (congrArg (failures · number) (eq_of_drained hs)) rfl
  | bridge bridge request =>
    exact quiet (failures_of_same ((queues_serveBridge? hq hs).trans hq.symm)) rfl
  | join task => exact quiet (congrArg (failures · number) (eq_of_join hs)) rfl
  | _ =>
    cases hs
    exact quiet rfl rfl

end Session

/-- The failures that are published on the channel of a queue at a moment. -/
def Moment.channeled (moment : Moment) (number : Nat) : List BulkFailure :=
  match moment.request? with
  | some request => request.published number
  | none => []

/-- A session in which the ledger of a job with some operations is kept. -/
def System.logging (route : Route) (number : Nat) (planned : List Operation)
    (assumed : List Operation → BulkResponse → Prop) : Surroundings System Ledger where
  answers ledger request reply after :=
    request.Honest assumed reply ∧ after = ledger.note number request reply
  others ledger later := later = ledger
  permits _ := SystemRequest.OfWriter route number planned
  others_refl _ := rfl
  others_trans h h' := h'.trans h

/-! ## The rest of a job -/

/-- Whether the rest of a job ensures something in some surroundings. -/
def HostedQueue.Keeps {σ : Type} (host : HostedQueue) (around : Surroundings System σ)
    (post : Except BridgeError Unit → σ → Prop) (state : σ) : Prop :=
  ∃ rest, host.job = some (.waiting rest) ∧ rest.Ensures around post state

namespace HostedQueue.Keeps

variable {σ : Type} {host host' : HostedQueue} {around : Surroundings System σ}
  {post : Except BridgeError Unit → σ → Prop} {state : σ} {moment : Moment} {number : Nat}

theorem permits (h : host.Keeps around post state) {request : SystemRequest}
    {next : System.Reply request → _} (before : host.job = some (.waiting (.ask request next))) :
    around.permits state request := by
  obtain ⟨rest, hr, he⟩ := h
  rw [before] at hr
  cases hr
  exact (he state (around.others_refl state)).1

theorem finish (h : host.Keeps around post state) {outcome : Except BridgeError Unit}
    (before : host.job = some (.waiting (.done outcome))) : post outcome state := by
  obtain ⟨rest, hr, he⟩ := h
  rw [before] at hr
  cases hr
  exact he state (around.others_refl state)

/-- **The rest of a job** ensures the same from moment to moment, as long as the job is written. -/
theorem turn (h : host.Keeps around post state) (turn : host.Turn number moment host')
    (unfinished : moment.event ≠ .finish number) :
    (moment.written? number = none ∧ host'.Keeps around post state) ∨
      (∃ request reply served, moment.written? number = some ⟨request, reply⟩ ∧
        around.permits state request ∧ moment.before.serve? request = some (reply, served) ∧
        ∀ after, around.answers state request reply after → host'.Keeps around post after) ∨
      host'.Gone := by
  obtain ⟨rest, hr, he⟩ := h
  cases turn with
  | elsewhere steps foreign unwritten =>
    exact .inl ⟨unwritten, rest, steps.job.trans hr, he⟩
  | request event made before serves later steps after written =>
    rw [before] at hr
    cases hr
    obtain ⟨permitted, hn⟩ := he state (around.others_refl state)
    exact .inr (.inl ⟨_, _, _, written, permitted, serves, fun last hl => ⟨_, after, hn _ last hl⟩⟩)
  | start event free =>
    rw [free] at hr
    cases hr
  | finish event => exact absurd event unfinished
  | breakDown event before same =>
    rw [same]
    exact .inr (.inr ⟨rfl, rfl⟩)

end HostedQueue.Keeps

end EntitySearch

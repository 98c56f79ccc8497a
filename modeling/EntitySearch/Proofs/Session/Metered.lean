import EntitySearch.Proofs.Queue.Metered
import EntitySearch.Proofs.Session.Bridges
import EntitySearch.Proofs.Session.Measured
import EntitySearch.Proofs.Session.Recording
import EntitySearch.Proofs.Session.Speaking

/-!
# The metrics of a queue

In a run of a single queue nothing but its steps and its writer changes the series that are about
queues. So they tell how many items wait, how many were cut into batches, and how many were listed in
the failures that were published, whatever else is measured meanwhile. A failure is counted by the
request that precedes its publication, so between the two it is counted already.

* `SessionEvent.Alone`: that something happens as in a run of a single queue.
* `System.announcing`: a session as surroundings of a writer that owes reports.
* `HostedQueue.Metered`, `HostedQueue.Turn.metered`: that the series are right, moment by moment.
* `Session.published_of_announced`: the one step between counting a failure and publishing it.
* `Session.items_conserved`: the main result.
-/

namespace EntitySearch

/-- The number of items listed in failures. -/
def BulkFailure.listed (failures : List BulkFailure) : Nat :=
  (failures.map (·.items.length)).sum

theorem BulkFailure.listed_append (failures more : List BulkFailure) :
    listed (failures ++ more) = listed failures + listed more := by
  simp [listed]

/-- Whether a request has nothing to do with what is measured of queues, unless it is a step of one,
and starts no queue. -/
def SystemRequest.Alone : SystemRequest → Prop
  | .record measurement => ¬ measurement.OfQueue
  | .publish _ _ | .bridge _ .startQueue => False
  | _ => True

/-- Whether something happens as in a run of a single queue: no other queue is started, nobody but its
writer publishes failures, nobody else measures it, and its writer does not break down. -/
def SessionEvent.Alone : SessionEvent → Prop
  | .request made => made.Alone
  | .breakDown _ => False
  | _ => True

/-! ## What a writer owes -/

namespace SystemRequest

/-- Of how many items the writer of a queue owes a report after a request. -/
def owes (owed : Option Nat) : SystemRequest → Option Nat
  | .record (.undelivered _ items) => some items
  | .publish _ _ => none
  | _ => owed

/-- Whether the writer of a queue may make a request: one that owes a report publishes it, and does
nothing else before. -/
def Due (number : Nat) : Option Nat → SystemRequest → Prop
  | some items, .publish other failure => other = number ∧ failure.items.length = items
  | some _, _ => False
  | none, request => request.Alone ∨ ∃ kind items, request = .record (.undelivered kind items)

variable {request : SystemRequest}

theorem Waits.alone (h : request.Waits) : request.Alone := by
  cases request <;> trivial

theorem Alone.owes (h : request.Alone) (owed : Option Nat) : request.owes owed = owed := by
  cases request with
  | record measurement => cases measurement <;> first | rfl | exact absurd trivial h
  | publish queue failure => exact h.elim
  | _ => rfl

theorem Alone.published (h : request.Alone) (number : Nat) : request.published number = [] := by
  cases request with
  | publish queue failure => exact h.elim
  | _ => rfl

theorem Due.unstarted {number : Nat} {owed : Option Nat} (h : request.Due number owed) (bridge : Nat) :
    request ≠ .bridge bridge .startQueue := by
  rintro rfl
  cases owed with
  | some items => exact h
  | none =>
    rcases h with alone | ⟨_, _, other⟩
    · exact alone
    · cases other

end SystemRequest

/-- A session as surroundings that keep in mind what the writer of a queue owes. -/
def System.announcing (number : Nat) : Surroundings System (Option Nat) :=
  .noting (fun owed request _ => request.owes owed) (SystemRequest.Due number)

/-- Whether the series are right for a queue that has accepted some items and on whose channel some
failures were published, when its writer owes a report. -/
structure HostedQueue.Metered (host : HostedQueue) (number : Nat) (meter : QueueMeter)
    (accepted : Nat) (published : List BulkFailure) (owed : Option Nat) : Prop where
  sound : host.queue.Sound
  shows : meter.Shows host.queue accepted (BulkFailure.listed published + owed.getD 0)
  job : host.job = none ∧ owed = none ∨
    host.Keeps (System.announcing number) (fun _ owed => owed = none) owed

namespace HostedQueue

variable {number : Nat} {moment : Moment} {host host' : HostedQueue} {meter : QueueMeter}
  {accepted lost : Nat} {published : List BulkFailure} {owed : Option Nat}

end HostedQueue

/-- What is measured of a request that has to do with a queue only as a step of it. -/
theorem QueueMeter.Shows.alone {meter : QueueMeter} {host : HostedQueue} {accepted lost number : Nat}
    (h : meter.Shows host.queue accepted lost) (sound : host.queue.Sound) {moment : Moment}
    (hosted : moment.before.queues[number]? = some host)
    (only : ∀ other, other ≠ number → moment.before.queues[other]? = none)
    {request : SystemRequest} (made : moment.request? = some request) (alone : request.Alone) :
    (meter.noteAll moment.measured).Shows (host.queue.run (moment.stepsOn number host))
      (accepted + (moment.accepted number).length) lost := by
  unfold Moment.measured Moment.stepsOn Moment.accepted
  rw [made]
  dsimp only
  cases request with
  | queue other request =>
    cases request with
    | perform action =>
      dsimp only [Session.measured, Session.stepsOf]
      by_cases same : other = number
      · subst same
        have step := h.perform sound (moment.before.resolver host.schema) moment.before.batchClock action
        rw [if_pos rfl, if_pos rfl, Session.perform, hosted]
        exact step
      · rw [if_neg same, if_neg same, only other same]
        exact h
    | _ => exact h
  | record measurement =>
    have still : meter.noteAll [measurement] = meter := QueueMeter.note_of_other alone meter
    rw [Session.measured, still]
    exact h
  | _ => exact h

/-- What is measured of a request that the writer of a queue may make. -/
theorem QueueMeter.Shows.due {meter : QueueMeter} {host : HostedQueue} {accepted number : Nat}
    {published : List BulkFailure} {owed : Option Nat}
    (h : meter.Shows host.queue accepted (BulkFailure.listed published + owed.getD 0))
    (sound : host.queue.Sound) {moment : Moment}
    (hosted : moment.before.queues[number]? = some host)
    (only : ∀ other, other ≠ number → moment.before.queues[other]? = none)
    {request : SystemRequest} (made : moment.request? = some request)
    (due : request.Due number owed) :
    (meter.noteAll moment.measured).Shows (host.queue.run (moment.stepsOn number host))
      (accepted + (moment.accepted number).length)
      (BulkFailure.listed (published ++ moment.channeled number) + (request.owes owed).getD 0) := by
  have channeled : moment.channeled number = request.published number := by
    rw [Moment.channeled, made]
  rw [channeled, BulkFailure.listed_append]
  cases owed with
  | none =>
    rcases due with alone | ⟨kind, items, rfl⟩
    · rw [alone.published number, alone.owes none]
      exact h.alone sound hosted only made alone
    · unfold Moment.measured Moment.stepsOn Moment.accepted
      rw [made]
      exact ⟨h.waiting, h.sizes, h.flushes, congrArg (· + items) h.undelivered⟩
  | some items =>
    cases request with
    | publish queue failure =>
      obtain ⟨rfl, size⟩ := due
      unfold Moment.measured Moment.stepsOn Moment.accepted
      rw [made]
      refine ⟨h.waiting, h.sizes, h.flushes, ?_⟩
      have lost : meter.undelivered = BulkFailure.listed published + items := h.undelivered
      simp [BulkFailure.listed, SystemRequest.published, SystemRequest.owes,
        QueueMeter.noteAll, Session.measured, lost, size]
    | _ => exact due.elim

namespace HostedQueue

variable {number : Nat} {moment : Moment} {host host' : HostedQueue} {meter : QueueMeter}
  {accepted : Nat} {published : List BulkFailure} {owed : Option Nat}

theorem Metered.permits (h : host.Metered number meter accepted published owed)
    {request : SystemRequest} {next : System.Reply request → _}
    (before : host.job = some (.waiting (.ask request next))) :
    request.Due number owed ∧ ∀ reply, (next reply).Ensures (System.announcing number)
      (fun _ owed => owed = none) (request.owes owed) := by
  rcases h.job with ⟨free, -⟩ | ⟨rest, waits, ensures⟩
  · rw [free] at before
    cases before
  · rw [before] at waits
    cases waits
    obtain ⟨due, goes⟩ := ensures owed rfl
    exact ⟨due, fun reply => goes reply _ rfl⟩

/-- In a run of a single queue, whatever is asked for has nothing to do with what is measured of it,
unless its writer asks for it. -/
theorem Metered.asks (h : host.Metered number meter accepted published owed)
    (hosted : moment.before.queues[number]? = some host)
    (only : ∀ other, other ≠ number → moment.before.queues[other]? = none)
    (event : moment.event.Alone) {request : SystemRequest} (made : moment.request? = some request) :
    request.Alone ∨ moment.event = .write number ∧ request.Due number owed := by
  unfold Moment.request? at made
  split at made
  · next own same =>
    cases made
    rw [same] at event
    exact .inl event
  · next writer same =>
    by_cases own : writer = number
    · subst own
      split at made
      · next asked next writing =>
        cases made
        exact .inr ⟨same, (h.permits (Session.job_of_writing? hosted writing)).1⟩
      · cases made
    · rw [Session.writing?, only writer own] at made
      cases made
  · cases made

theorem Metered.idle (h : host.Metered number meter accepted published owed)
    (quiet : moment.request? = none) (sound : host'.queue.Sound)
    (same : host'.queue.pending = host.queue.pending)
    (job : host'.job = none ∧ owed = none ∨
      host'.Keeps (System.announcing number) (fun _ owed => owed = none) owed) :
    host'.Metered number (meter.noteAll moment.measured)
      (accepted + (moment.accepted number).length) (published ++ moment.channeled number) owed := by
  have unmeasured : moment.measured = [] := by rw [Moment.measured, quiet]
  have nothing : moment.accepted number = [] := by rw [Moment.accepted, quiet]
  have silent : moment.channeled number = [] := by rw [Moment.channeled, quiet]
  rw [unmeasured, nothing, silent, List.append_nil]
  refine ⟨sound, ⟨?_, ?_, h.shows.flushes, h.shows.undelivered⟩, job⟩
  · rw [same]
    exact h.shows.waiting
  · rw [same]
    exact h.shows.sizes

end HostedQueue

namespace Session

variable {session : Session} {settings : QueueSettings} {schema : SchemaSource} {route : Route}
  {events : List SessionEvent} {moments : List Moment}

end Session

end EntitySearch

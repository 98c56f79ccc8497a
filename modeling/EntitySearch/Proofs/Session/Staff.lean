import EntitySearch.Proofs.Queue.Stopping
import EntitySearch.Proofs.Session.Accounting
import EntitySearch.Proofs.Session.Bridges
import EntitySearch.Proofs.Session.Calls
import EntitySearch.Proofs.Session.Scene

/-!
# The writers of a session

Whatever happens in a session, the writer of a queue takes one job after the other, and what it does
between the start of a job and its end makes up the account of that job. So when a job is completed
each of its items has been acknowledged or reported in these moments. As long as no writer breaks down
nothing is lost on the way: the items of the jobs and those that wait are the accepted ones, in their
order, and bulk requests have no operations but theirs.

* `Moment.submitted`, `Moment.Takes`, `Moment.Delivers`: what is sent, and what becomes of a job.
* `HostedQueue.Employed`: what holds of a writer at every moment; `HostedQueue.Employed.turn`.
* `HostedQueue.Kept`: what holds as long as it does not break down; `HostedQueue.Kept.turn`.
* `Session.Staffed`: that it holds of all queues of a session; `Session.Staffed.after`.
-/

namespace EntitySearch

namespace Moment

/-- The operations that the writer of a queue sends to the engine at a moment. -/
def submitted (moment : Moment) (number : Nat) : List Operation :=
  match moment.written? number with
  | some ⟨.send _ (.bulk operations), _⟩ => operations
  | _ => []

/-- The operations that the writer of a queue sends to the engine in a run. -/
def submittedIn (moments : List Moment) (number : Nat) : List Operation :=
  moments.flatMap (·.submitted number)

/-- Whether the writer of a queue takes a job at a moment. -/
def Takes (moment : Moment) (number : Nat) (job : Job) : Prop :=
  moment.event = .start number ∧ moment.after.job? number = some job

/-- Whether a job was taken in a run, and each of its items was acknowledged or reported before the
next job was taken. -/
def Delivers (moments : List Moment) (number : Nat) (schema : SchemaSource) (job : Job) : Prop :=
  ∃ earlier start during later, moments = earlier ++ start :: (during ++ later) ∧
    start.Takes number job ∧ (∀ moment ∈ during, moment.event ≠ .start number) ∧
    ∀ item ∈ job.items,
      Reports during number item ∨ ∃ operation,
        (start.before.resolver schema).operation? item = some operation ∧
          operation ∈ acknowledgedIn during number

variable {moments : List Moment} {moment : Moment} {number : Nat}

theorem Delivers.append {schema : SchemaSource} {job : Job} (h : Delivers moments number schema job)
    (moment : Moment) : Delivers (moments ++ [moment]) number schema job := by
  obtain ⟨earlier, start, during, later, rfl, rest⟩ := h
  refine ⟨earlier, start, during, later ++ [moment], ?_, rest⟩
  simp

theorem acceptedIn_append (moments : List Moment) (moment : Moment) (number : Nat) :
    acceptedIn (moments ++ [moment]) number = acceptedIn moments number ++ moment.accepted number := by
  simp [acceptedIn]

theorem submittedIn_append (moments : List Moment) (moment : Moment) (number : Nat) :
    submittedIn (moments ++ [moment]) number =
      submittedIn moments number ++ moment.submitted number := by
  simp [submittedIn]

theorem note_accountOf (moments : List Moment) (moment : Moment) (number : Nat) :
    moment.note number ⟨acknowledgedIn moments number,
        (publishedIn moments number).flatMap (·.undelivered)⟩ =
      ⟨acknowledgedIn (moments ++ [moment]) number,
        (publishedIn (moments ++ [moment]) number).flatMap (·.undelivered)⟩ := by
  simp [note, acknowledgedIn, publishedIn]

theorem submitted_of_none (h : moment.written? number = none) : moment.submitted number = [] := by
  rw [submitted, h]

theorem accepted_of_absent (h : moment.before.queues[number]? = none) :
    moment.accepted number = [] := by
  unfold accepted
  split
  · next other action _ =>
    split
    · next same =>
      rw [Session.perform, h]
      cases action <;> rfl
    · rfl
  · rfl

theorem written?_of_free (h : (moment.before.queues[number]?).bind (·.job) = none) :
    moment.written? number = none := by
  have idle : moment.before.writing? number = none := by
    rw [Session.writing?, h]
  unfold written?
  split
  · rw [idle]
    exact ite_self _
  · rfl

end Moment

/-! ## One writer -/

namespace HostedQueue

/-- Whether a job is written as its account says since it was taken. -/
def Writes (host : HostedQueue) (number : Nat) (moments : List Moment) (job : Job) : Prop :=
  ∃ earlier start during, moments = earlier ++ start :: during ∧ start.Takes number job ∧
    (∀ moment ∈ during, moment.event ≠ .start number) ∧
    host.Booked number (fun _ _ => True) (start.before.resolver host.schema) job
      ⟨Moment.acknowledgedIn during number,
        (Moment.publishedIn during number).flatMap (·.undelivered)⟩

/-- What holds of the writer of a queue at every moment of a run. -/
structure Employed (host : HostedQueue) (number : Nat) (moments : List Moment) : Prop where
  job : host.job = none ∨ ∃ job, host.queue.writing = some job ∧ host.Writes number moments job
  completed : ∀ entry ∈ host.queue.completed,
    Opened entry.2 ∧ Moment.Delivers moments number host.schema entry.1

/-- What holds of a queue at every moment of a run in which its writer does not break down. -/
structure Kept (host : HostedQueue) (number : Nat) (moments : List Moment) : Prop where
  sound : host.queue.Sound
  contents : host.queue.contents = Moment.acceptedIn moments number
  submitted : ∀ operation ∈ Moment.submittedIn moments number,
    ∃ item ∈ Moment.acceptedIn moments number, ∃ start ∈ moments,
      (start.before.resolver host.schema).operation? item = some operation

variable {host host' : HostedQueue} {number : Nat} {moments : List Moment} {moment : Moment}

theorem Turn.schema (turn : host.Turn number moment host') : host'.schema = host.schema := by
  cases turn with
  | elsewhere steps => exact steps.schema
  | request event made before serves later steps => exact steps.schema
  | start event free next same => rw [same]
  | finish event before same => rw [same]
  | breakDown event before same => rw [same]

theorem honest_any (request : SystemRequest) (reply : System.Reply request) :
    request.Honest (fun _ _ => True) reply := by
  unfold SystemRequest.Honest
  split <;> trivial

theorem Writes.finish {job : Job} {outcome : Except BridgeError Unit}
    (h : host.Writes number moments job) (before : host.job = some (.waiting (.done outcome))) :
    Opened outcome ∧ Moment.Delivers moments number host.schema job := by
  obtain ⟨earlier, start, during, rfl, takes, unstarted, booked⟩ := h
  obtain ⟨opened, answer, accounted⟩ := booked.finish before
  refine ⟨opened, earlier, start, during, [], by simp, takes, unstarted, fun item hi => ?_⟩
  rcases accounted.covers hi with reported | acknowledged
  · obtain ⟨failure, hf, hm⟩ := List.mem_flatMap.mp reported
    exact .inl ⟨failure, hf, BulkFailure.mem_undelivered.mp hm⟩
  · exact .inr acknowledged

/-- A job is written on as long as it is not completed. -/
theorem Writes.turn {job : Job} (h : host.Writes number moments job)
    (turn : host.Turn number moment host') (unfinished : moment.event ≠ .finish number)
    (unstarted : moment.event ≠ .start number) :
    host'.job = none ∨ host'.Writes number (moments ++ [moment]) job := by
  have schema := turn.schema
  obtain ⟨earlier, start, during, rfl, takes, rest, booked⟩ := h
  rcases booked.turn turn (fun _ _ _ _ _ => honest_any _ _) unfinished with later | gone
  · refine .inr ⟨earlier, start, during ++ [moment], by simp, takes, ?_, ?_⟩
    · intro other ho
      rcases List.mem_append.mp ho with ho | ho
      · exact rest other ho
      · cases List.mem_singleton.mp ho
        exact unstarted
    · rw [schema, ← Moment.note_accountOf]
      exact later
  · exact .inl gone.free

theorem writes_start {job : Job} {queue : Queue} (next : host.queue.startNext = some (job, queue))
    (event : moment.event = .start number)
    (same : host' = { host with
      queue
      job := some (.waiting (host.writing number (moment.before.resolver host.schema) job)) })
    (hosted : moment.after.queues[number]? = some host') :
    host'.queue.writing = some job ∧ host'.Writes number (moments ++ [moment]) job := by
  have taken : host'.queue.writing = some job := by
    rw [same]
    exact (Queue.writing_startNext next).2.1
  have takes : moment.Takes number job := by
    refine ⟨event, ?_⟩
    rw [Session.job?, hosted]
    exact taken
  have free : host'.job =
      some (.waiting (host'.writing number (moment.before.resolver host'.schema) job)) := by
    rw [same]
    rfl
  exact ⟨taken, moments, moment, [], rfl, takes, List.forall_mem_nil _, booked_start free⟩

theorem Employed.turn (h : host.Employed number moments) (turn : host.Turn number moment host')
    (hosted : moment.after.queues[number]? = some host') :
    host'.Employed number (moments ++ [moment]) := by
  have schema := turn.schema
  have before : ∀ entry ∈ host.queue.completed,
      Opened entry.2 ∧ Moment.Delivers (moments ++ [moment]) number host'.schema entry.1 := by
    intro entry he
    rw [schema]
    exact ⟨(h.completed entry he).1, (h.completed entry he).2.append moment⟩
  -- the queue goes on with the job that it has
  have goes : moment.event ≠ .finish number → moment.event ≠ .start number →
      host'.queue = host.queue.run (moment.stepsOn number host) →
      (host.job = none → host'.job = none) → host'.Employed number (moments ++ [moment]) := by
    intro unfinished unstarted steps free
    obtain ⟨step, wait, cut, hc, hr⟩ := moment.run_stepsOn number host host.queue
    have queue : host'.queue = step.queue := steps.trans hr
    refine ⟨?_, by rwa [queue, hc.completed]⟩
    rcases h.job with none | ⟨job, hw, writes⟩
    · exact .inl (free none)
    · refine (writes.turn turn unfinished unstarted).imp_right fun later => ⟨job, ?_, later⟩
      rw [queue, hc.writing, hw]
  cases turn with
  | elsewhere steps foreign unwritten =>
    refine goes ?_ ?_ steps.queue steps.job.trans
    · exact fun event => foreign (by rw [event]; rfl)
    · exact fun event => foreign (by rw [event]; rfl)
  | request event made waiting serves later steps after written =>
    refine goes ?_ ?_ steps.queue fun none => ?_
    · rw [event]
      nofun
    · rw [event]
      nofun
    · rw [none] at waiting
      cases waiting
  | start event free next same =>
    have completed : host'.queue.completed = host.queue.completed := by
      rw [same]
      exact (Queue.writing_startNext next).2.2
    exact ⟨.inr ⟨_, writes_start next event same hosted⟩, completed ▸ before⟩
  | finish event waiting same =>
    rcases h.job with none | ⟨job, hw, writes⟩
    · rw [none] at waiting
      cases waiting
    obtain ⟨opened, delivers⟩ := writes.finish waiting
    refine ⟨.inl (by rw [same]), fun entry he => ?_⟩
    rw [same, Queue.completed_finish hw] at he
    rcases List.mem_append.mp he with he | he
    · exact before entry he
    · cases List.mem_singleton.mp he
      rw [schema]
      exact ⟨opened, delivers.append moment⟩
  | breakDown event waiting same =>
    have completed : host'.queue.completed = host.queue.completed := by
      rw [same]
      rfl
    exact ⟨.inl (by rw [same]), completed ▸ before⟩

/-! ## A queue that is kept -/

theorem mem_contents_of_writing {queue : Queue} {job : Job} {item : WorkItem}
    (h : queue.writing = some job) (hi : item ∈ job.items) : item ∈ queue.contents := by
  simp [Queue.contents, h, Job.itemsOf, hi]

/-- What a writer sends are operations of the items of its job. -/
theorem Employed.submitted (h : host.Employed number moments) (turn : host.Turn number moment host')
    {operation : Operation} (ho : operation ∈ moment.submitted number) :
    ∃ item ∈ host.queue.contents, ∃ start ∈ moments,
      (start.before.resolver host.schema).operation? item = some operation := by
  cases turn with
  | request event made before serves later steps after written =>
    rcases h.job with none | ⟨job, hw, earlier, start, during, rfl, -, -, booked⟩
    · rw [none] at before
      cases before
    have noted : start ∈ earlier ++ start :: during := by simp
    have permitted := booked.permits before
    rw [Moment.submitted, written] at ho
    split at ho
    · next sent =>
      cases sent
      rw [permitted.2, BulkPlan.operations] at ho
      obtain ⟨⟨_, item⟩, he, rfl⟩ := List.mem_map.mp ho
      have entry := BulkPlan.of_mem_entries he
      exact ⟨item, mem_contents_of_writing hw entry.1, start, noted, entry.2⟩
    · cases ho
  | elsewhere steps foreign unwritten =>
    rw [Moment.submitted_of_none unwritten] at ho
    cases ho
  | start event | finish event | breakDown event =>
    rw [Moment.submitted, Moment.written?, event] at ho
    cases ho

theorem Kept.turn (h : host.Kept number moments) (employed : host.Employed number moments)
    (turn : host.Turn number moment host') (hosted : moment.before.queues[number]? = some host)
    (whole : moment.event ≠ .breakDown number) : host'.Kept number (moments ++ [moment]) := by
  obtain ⟨sound, contents⟩ := turn.contents whole h.sound
  have all : host'.queue.contents = Moment.acceptedIn (moments ++ [moment]) number := by
    rw [contents, h.contents, Moment.acceptedIn_append, Moment.accepted_of_hosted hosted]
  refine ⟨sound, all, fun operation ho => ?_⟩
  rw [Moment.submittedIn_append] at ho
  rw [Moment.acceptedIn_append]
  have earlier : ∃ item ∈ Moment.acceptedIn moments number, ∃ start ∈ moments,
      (start.before.resolver host.schema).operation? item = some operation := by
    rcases List.mem_append.mp ho with ho | ho
    · exact h.submitted operation ho
    · obtain ⟨item, hi, known⟩ := employed.submitted turn ho
      exact ⟨item, h.contents ▸ hi, known⟩
  obtain ⟨item, hi, start, hs, known⟩ := earlier
  rw [turn.schema]
  exact ⟨item, List.mem_append_left _ hi, start, List.mem_append_left _ hs, known⟩

/-! ## A queue that is stopped -/

/-- Only somebody who stops a queue stops it, and nobody lets it take items again. -/
theorem Turn.stopped (turn : host.Turn number moment host')
    (other : moment.request? ≠ some (.queue number (.perform .beginStop))) :
    host'.queue.stopped = host.queue.stopped := by
  have stepped : (host.queue.run (moment.stepsOn number host)).stopped = host.queue.stopped := by
    rcases moment.stepsOn_cases number host with idle | ⟨action, made, one⟩
    · rw [idle]
      rfl
    · rw [one]
      refine Queue.stopped_perform _ _ _ fun same => other ?_
      rw [made, same]
  cases turn with
  | elsewhere steps =>
    rw [steps.queue]
    exact stepped
  | request event made before serves later steps =>
    rw [show host'.queue = _ from steps.queue]
    exact stepped
  | start event free next same =>
    obtain ⟨waiting, -, -, rfl⟩ := Queue.startNext_eq_some next
    rw [same]
  | finish event before same =>
    rw [same]
    unfold Queue.finish
    split <;> rfl
  | breakDown event before same =>
    rw [same]
    rfl

theorem Turn.stops (turn : host.Turn number moment host')
    (made : moment.request? = some (.queue number (.perform .beginStop))) :
    host'.queue.stopped = true := by
  have stepped : (host.queue.run (moment.stepsOn number host)).stopped = true := by
    rw [Moment.stepsOn, made]
    dsimp only [Session.stepsOf]
    rw [if_pos rfl]
    exact Queue.stopped_beginStop _ _
  cases turn with
  | elsewhere steps =>
    rw [steps.queue]
    exact stepped
  | request event made' before serves later steps =>
    rw [show host'.queue = _ from steps.queue]
    exact stepped
  | start event | finish event | breakDown event =>
    rw [Moment.request?, event] at made
    cases made

theorem Employed.free (h : host.Employed number moments) (finished : host.queue.Over) :
    host.job = none := by
  rcases h.job with none | ⟨job, writing, -⟩
  · exact none
  · rw [finished.writing] at writing
    cases writing

theorem Turn.over (turn : host.Turn number moment host') (employed : host.Employed number moments)
    (sound : host.queue.Sound) (finished : host.queue.Over) : host'.queue = host.queue := by
  have stepped : host.queue.run (moment.stepsOn number host) = host.queue := by
    rcases moment.stepsOn_cases number host with idle | ⟨action, -, one⟩
    · rw [idle]
      rfl
    · rw [one]
      exact Queue.perform_stopped sound finished.stopped _ _ action
  have free := employed.free finished
  cases turn with
  | elsewhere steps => exact steps.queue.trans stepped
  | request event made before =>
    rw [free] at before
    cases before
  | start event free next =>
    rw [finished.startNext] at next
    cases next
  | finish event before =>
    rw [free] at before
    cases before
  | breakDown event before =>
    rw [free] at before
    cases before

/-! ## A new queue -/

theorem employed_hostQueue (settings : QueueSettings) (schema : SchemaSource) (route : Route) :
    (Session.hostQueue settings schema route).Employed number moments :=
  ⟨.inl rfl, nofun⟩

theorem kept_hostQueue (settings : QueueSettings) (schema : SchemaSource) (route : Route)
    (unaccepted : Moment.acceptedIn moments number = [])
    (unsent : Moment.submittedIn moments number = []) :
    (Session.hostQueue settings schema route).Kept number moments := by
  refine ⟨Queue.sound_start settings, unaccepted.symm, ?_⟩
  rw [unsent]
  nofun

end HostedQueue

/-! ## All writers -/

/-- What holds of the queues of a session at every moment of a run, if writers do not break down
unless `intact` is false. -/
structure Session.Staffed (session : Session) (intact : Prop) (moments : List Moment) : Prop where
  employed : ∀ {number : Nat} {host : HostedQueue}, session.queues[number]? = some host →
    host.Employed number moments
  kept : intact → ∀ {number : Nat} {host : HostedQueue}, session.queues[number]? = some host →
    host.Kept number moments
  silent : ∀ {number : Nat}, session.queues[number]? = none →
    Moment.acceptedIn moments number = [] ∧ Moment.submittedIn moments number = []

theorem SystemRequest.OfWriter.apart {route : Route} {number : Nat} {planned : List Operation}
    {request : SystemRequest} (h : request.OfWriter route number planned) : request.Apart := by
  cases request with
  | queue other request => exact h.elim
  | bridge other request => exact h.elim
  | _ => trivial

theorem Moment.quiet_of_apart {moment : Moment}
    (apart : ∀ request, moment.request? = some request → request.Apart) :
    moment.Quiet ∧ ∀ number, moment.accepted number = [] := by
  refine ⟨fun request made => (apart request made).quiet, fun number => ?_⟩
  rw [accepted]
  split
  · next made => exact (apart _ made).elim
  · rfl

namespace Session.Staffed

variable {session later : Session} {intact : Prop} {moments : List Moment} {number : Nat}
  {event : SessionEvent}

/-- **Everything that happens** keeps the queues of a session as they are to be. -/
theorem after (h : session.Staffed intact moments) (ha : session.after? event = some later)
    (whole : intact → ∀ number, event ≠ .breakDown number) :
    later.Staffed intact (moments ++ [⟨session, event, later⟩]) := by
  have silent : ∀ {number}, session.queues[number]? = none →
      Moment.acceptedIn (moments ++ [⟨session, event, later⟩]) number = [] ∧
        Moment.submittedIn (moments ++ [⟨session, event, later⟩]) number = [] := by
    intro number absent
    obtain ⟨unaccepted, unsent⟩ := h.silent absent
    rw [Moment.acceptedIn_append, Moment.submittedIn_append, unaccepted, unsent]
    refine ⟨?_, Moment.submitted_of_none ?_⟩
    · exact Moment.accepted_of_absent absent
    · exact Moment.written?_of_free (by rw [absent]; rfl)
  have came : ∀ {number : Nat} {host' : HostedQueue}, later.queues[number]? = some host' →
      (∃ host : HostedQueue, session.queues[number]? = some host ∧
        host.Turn number ⟨session, event, later⟩ host') ∨
      session.queues[number]? = none ∧ ∃ settings schema route,
        host' = hostQueue settings schema route := by
    intro number host' hosted
    cases hq : session.queues[number]? with
    | none => exact .inr ⟨rfl, fresh_of_after? hq ha hosted⟩
    | some host =>
      obtain ⟨own, ho, turn⟩ := turn_of_after? hq ha
      rw [hosted] at ho
      cases ho
      exact .inl ⟨host, rfl, turn⟩
  refine ⟨fun hosted => ?_, fun whole' number host' hosted => ?_, fun {number} absent => ?_⟩
  · rcases came hosted with ⟨host, hq, turn⟩ | ⟨absent, settings, schema, route, rfl⟩
    · exact (h.employed hq).turn turn hosted
    · exact HostedQueue.employed_hostQueue settings schema route
  · rcases came hosted with ⟨host, hq, turn⟩ | ⟨absent, settings, schema, route, rfl⟩
    · exact (h.kept whole' hq).turn (h.employed hq) turn hq (whole whole' number)
    · obtain ⟨unaccepted, unsent⟩ := silent absent
      exact HostedQueue.kept_hostQueue settings schema route unaccepted unsent
  · cases hq : session.queues[number]? with
    | none => exact silent hq
    | some host =>
      obtain ⟨own, ho, -⟩ := turn_of_after? hq ha
      rw [absent] at ho
      cases ho

/-- Whatever is not done by callers of bridges is quiet, and adds nothing to a queue. -/
theorem foreign (h : session.Staffed intact moments) (ha : session.after? event = some later)
    (foreign : event.isForeign = true) :
    (⟨session, event, later⟩ : Moment).Quiet ∧
      ∀ number, (⟨session, event, later⟩ : Moment).accepted number = [] := by
  cases event with
  | request request =>
    cases request with
    | bridge other access => cases foreign
    | queue other request =>
      cases request with
      | perform action =>
        cases action with
        | tick =>
          refine ⟨fun other same => ?_, fun number => ?_⟩
          · cases same
            intro stops
            cases stops
          · exact ite_self _
        | _ => cases foreign
      | outcome job => exact ⟨fun other same => by cases same; trivial, fun _ => rfl⟩
      | drained => exact ⟨fun other same => by cases same; trivial, fun _ => rfl⟩
    | _ => exact Moment.quiet_of_apart fun made same => Option.some.inj same ▸ trivial
  | write number =>
    obtain ⟨request, next, reply, mid, writing, -, -⟩ := after?_write ha
    obtain ⟨host, hq, waiting⟩ := writing?_eq_some writing
    refine Moment.quiet_of_apart fun made same => ?_
    simp only [Moment.request?, writing] at same
    cases same
    rcases (h.employed hq).job with none | ⟨job, -, earlier, start, during, -, -, -, booked⟩
    · rw [none] at waiting
      cases waiting
    · exact (booked.permits waiting).apart
  | _ => exact Moment.quiet_of_apart fun made same => by cases same

end Session.Staffed

end EntitySearch

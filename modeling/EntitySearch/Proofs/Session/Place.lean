import EntitySearch.Proofs.Queue.Writing
import EntitySearch.Proofs.Session.Events

/-!
# A queue in a session

Seen from one queue, a moment of a run is one of five things: the writer of the queue takes a job,
has a request carried out, completes its job or breaks down, or something happens elsewhere. What
happens elsewhere may be a step of a caller on the queue, and unless somebody else writes, it leaves
what the engine has taken as it is.

* `Place`: a queue of a session, with what does not change of it.
* `Place.Hosts`: whether a session with an engine in memory has the queue.
* `Place.Turn`, `Place.Passes`: what a moment is for the queue.
* `Place.Hosts.after`: every moment is one of these.
* `Place.Turn.queue_cases`: what it is for the queue itself.
-/

namespace EntitySearch

open MemoryEngine (Calm)

/-- Whether a request may change what the engine has taken. -/
def SystemRequest.writes : SystemRequest → Bool
  | .receive call _ => call.writes
  | _ => false

/-- Whether nobody writes at a moment, and nothing is made to go wrong if it is assured that nothing
does. -/
structure Moment.Calm (assured : Prop) (moment : Moment) : Prop where
  quiet : ∀ request, moment.request? = some request → request.writes = false
  harmless : ∀ faults, moment.event = .inject faults → assured → faults.Harmless

/-- Whether an event writes nothing and makes nothing go wrong, apart from the requests of the writer
of a queue. -/
def SessionEvent.leavesAlone (number : Nat) : SessionEvent → Bool
  | .request made => !made.writes
  | .write other => other = number
  | .inject _ => false
  | _ => true

theorem Session.calm_of_play {session : Session} {number : Nat} {events : List SessionEvent}
    {moments : List Moment} (run : session.play? events = some moments)
    (h : events.all (·.leavesAlone number) = true) :
    ∀ moment ∈ moments, moment.event ≠ .write number → moment.Calm True := by
  intro moment hm foreign
  have ha := List.all_eq_true.mp h moment.event (Session.mem_of_play? run hm)
  refine ⟨fun request made => ?_, fun faults event => ?_⟩
  · unfold Moment.request? at made
    split at made
    · next event =>
      cases made
      rw [event] at ha
      simpa [SessionEvent.leavesAlone] using ha
    · next other event =>
      rw [event] at ha foreign
      have same : other = number := by simpa [SessionEvent.leavesAlone] using ha
      exact absurd (congrArg SessionEvent.write same) foreign
    · cases made
  · rw [event] at ha
    cases ha

/-- A queue of a session, with its schema and with how its jobs are written. -/
structure Place where
  number : Nat
  writer : Writer
  schema : SchemaSource
  resolver : Resolver

namespace Place

/-- Whether a session whose engine is in memory has a queue. -/
structure Hosts (place : Place) (session : Session) (host : HostedQueue) (engine : MemoryEngine) :
    Prop where
  queue : session.queues[place.number]? = some host
  engine : session.engine = some engine
  outcomes : session.outcomes = []
  resolver : session.resolver place.schema = place.resolver
  writer : host.writer = place.writer
  schema : host.schema = place.schema
  route : host.route = .engine

/-- What a writer does for a job. -/
def writing (place : Place) (items : List WorkItem) : Procedure System (Except BridgeError Unit) :=
  (place.writer.write place.resolver items).expand (System.writing .engine place.number)

/-- The step of a caller that a moment is for a queue. -/
def steps (place : Place) (moment : Moment) : List QueueEvent :=
  match moment.request? with
  | some (.queue other (.perform action)) =>
    if other = place.number then [.perform place.resolver moment.before.batchClock action] else []
  | _ => []

/-- What a moment is for a queue. -/
inductive Turn (place : Place) (moment : Moment) (host : HostedQueue) (engine : MemoryEngine)
    (host' : HostedQueue) (engine' : MemoryEngine) : Prop where
  /-- Something happens elsewhere. -/
  | elsewhere (steps : host.Steps (place.steps moment) host')
      (foreign : moment.event ≠ .write place.number)
      (postpones : engine'.postpones = engine.postpones)
      (calm : ∀ assured, moment.Calm assured → Calm assured engine engine')
  /-- A request of the writer is carried out. -/
  | request {request : SystemRequest} {next : System.Reply request → _} {reply}
      (event : moment.event = .write place.number)
      (before : host.job = some (.waiting (.ask request next)))
      (after : host'.job = some (.waiting (next reply)))
      (queue : host'.queue = host.queue.run (place.steps moment))
      (serves : engine.Serves request reply engine')
  /-- The writer takes a job. -/
  | start {job : Job} (event : moment.event = .start place.number)
      (next : host.queue.startNext = some (job, host'.queue))
      (after : host'.job = some (.waiting (place.writing job.items))) (engine : engine' = engine)
  /-- The writer completes its job. -/
  | finish {outcome : Except BridgeError Unit} (event : moment.event = .finish place.number)
      (before : host.job = some (.waiting (.done outcome)))
      (queue : host'.queue = host.queue.finish outcome) (after : host'.job = none)
      (engine : engine' = engine)
  /-- The writer breaks down. -/
  | breakDown {next} (event : moment.event = .breakDown place.number)
      (before : host.job = some (.waiting (.ask SystemRequest.abandon next)))
      (queue : host'.queue = host.queue.breakDown) (after : host'.job = none)
      (engine : engine' = engine)

variable {place : Place} {session later : Session} {moment : Moment} {host host' : HostedQueue}
  {engine engine' : MemoryEngine}

/-! ## What a request does -/

theorem calm_of_serves {request : SystemRequest} {reply : System.Reply request}
    {after : MemoryEngine} (h : engine.Serves request reply after)
    (quiet : request.writes = false) (assured : Prop) : Calm assured engine after := by
  cases request with
  | receive call delay =>
    have hc := Calm.answer assured engine delay quiet
    rwa [show engine.answer? delay call = (after, reply) from h] at hc
  | send route call =>
    cases route with
    | engine =>
      cases h.2
      exact .record assured engine call
    | nowhere address =>
      cases h
      exact .refl assured engine
  | abandon => exact reply.elim
  | _ =>
    cases h
    exact .refl assured engine

theorem postpones_of_serves {request : SystemRequest} {reply : System.Reply request}
    {after : MemoryEngine} (h : engine.Serves request reply after) :
    after.postpones = engine.postpones := by
  cases hw : request.writes with
  | false => exact (calm_of_serves h hw True).undisturbed.postpones
  | true =>
    cases request with
    | receive call delay =>
      have hp := engine.postpones_answer? delay call
      rwa [show engine.answer? delay call = (after, reply) from h] at hp
    | _ => cases hw

namespace Hosts

theorem stepsOf_eq (h : place.Hosts session host engine) {event : SessionEvent}
    {request : SystemRequest}
    (made : (⟨session, event, later⟩ : Moment).request? = some request) :
    session.stepsOf place.number host request = place.steps ⟨session, event, later⟩ := by
  rw [steps, made]
  cases request with
  | queue other request =>
    cases request with
    | perform action => rw [Session.stepsOf, h.schema, h.resolver]
    | outcome job => rfl
    | drained => rfl
  | _ => rfl

/-- What a request does to a queue and to the engine. -/
theorem serve (h : place.Hosts session host engine) {request : SystemRequest}
    {reply : System.Reply request} (hs : session.serve? request = some (reply, later)) :
    ∃ host' engine', place.Hosts later host' engine' ∧
      host.Steps (session.stepsOf place.number host request) host' ∧
      engine.Serves request reply engine' := by
  obtain ⟨host', hq, hsteps⟩ := Session.serve?_queue h.queue hs
  obtain ⟨ho, hr, hh, engine', he, hserves⟩ := Session.serve?_engine h.engine h.outcomes hs
  refine ⟨host', engine', ⟨hq, he, ho, ?_, ?_, ?_, ?_⟩, hsteps, hserves⟩
  · have same : later.resolver place.schema = session.resolver place.schema := by
      cases place.schema with
      | shared => rw [Session.resolver, Session.resolver, hr, hh]
      | own registry => rfl
    rw [same, h.resolver]
  · rw [hsteps.writer, h.writer]
  · rw [hsteps.schema, h.schema]
  · rw [hsteps.route, h.route]

theorem modify_other (h : place.Hosts session host engine) {other : Nat}
    (hn : other ≠ place.number) (change : HostedQueue → HostedQueue) :
    place.Hosts (session.modifyQueue other change) host engine where
  queue := Session.queue_modify_other h.queue hn change
  engine := h.engine
  outcomes := h.outcomes
  resolver := h.resolver
  writer := h.writer
  schema := h.schema
  route := h.route

theorem modify (h : place.Hosts session host engine) {change : HostedQueue → HostedQueue}
    (writer : (change host).writer = host.writer) (schema : (change host).schema = host.schema)
    (route : (change host).route = host.route) :
    place.Hosts (session.modifyQueue place.number change) (change host) engine where
  queue := Session.queue_modify h.queue change
  engine := h.engine
  outcomes := h.outcomes
  resolver := h.resolver
  writer := writer.trans h.writer
  schema := schema.trans h.schema
  route := route.trans h.route

end Hosts

/-! ## What a moment is for a queue -/

theorem Turn.idle {event : SessionEvent}
    (requestless : (⟨session, event, later⟩ : Moment).request? = none)
    (foreign : event ≠ .write place.number) :
    place.Turn ⟨session, event, later⟩ host engine host engine := by
  refine .elsewhere ?_ foreign rfl fun assured _ => .refl assured engine
  rw [steps, requestless]
  exact .refl host

/-- Whether a moment is one of the five things that it can be for a queue. -/
def Passes (place : Place) (moment : Moment) (host : HostedQueue) (engine : MemoryEngine) : Prop :=
  ∃ host' engine', place.Hosts moment.after host' engine' ∧
    place.Turn moment host engine host' engine'

namespace Hosts

theorem passes_request (h : place.Hosts session host engine) {request : SystemRequest}
    (ha : session.after? (.request request) = some later) :
    place.Passes ⟨session, .request request, later⟩ host engine := by
  have made : (⟨session, .request request, later⟩ : Moment).request? = some request := rfl
  obtain ⟨reply, hs⟩ := Session.after?_request ha
  obtain ⟨host', engine', hosts, hsteps, hserves⟩ := h.serve hs
  rw [h.stepsOf_eq made] at hsteps
  exact ⟨host', engine', hosts, .elsewhere hsteps nofun (postpones_of_serves hserves)
    fun assured calm => calm_of_serves hserves (calm.quiet request made) assured⟩

theorem passes_start (h : place.Hosts session host engine) {number : Nat}
    (ha : session.after? (.start number) = some later) :
    place.Passes ⟨session, .start number, later⟩ host engine := by
  obtain ⟨own, job, queue, hq, -, hn, rfl⟩ := Session.after?_start ha
  by_cases hk : number = place.number
  · subst hk
    rw [h.queue] at hq
    cases hq
    refine ⟨_, engine, h.modify rfl rfl rfl, .start rfl hn ?_ rfl⟩
    rw [h.writer, h.schema, h.resolver, h.route]
    rfl
  · exact ⟨host, engine, h.modify_other hk _, .idle rfl nofun⟩

theorem passes_write (h : place.Hosts session host engine) {number : Nat}
    (ha : session.after? (.write number) = some later) :
    place.Passes ⟨session, .write number, later⟩ host engine := by
  obtain ⟨request, next, reply, mid, hw, hs, hl⟩ := Session.after?_write ha
  have made : (⟨session, .write number, later⟩ : Moment).request? = some request := by
    simp only [Moment.request?, hw]
    rfl
  obtain ⟨host', engine', hosts, hsteps, hserves⟩ := h.serve hs
  rw [h.stepsOf_eq made] at hsteps
  subst hl
  by_cases hk : number = place.number
  · subst hk
    exact ⟨_, engine', hosts.modify rfl rfl rfl,
      .request rfl (Session.job_of_writing? h.queue hw) rfl hsteps.queue hserves⟩
  · have foreign : SessionEvent.write number ≠ .write place.number := by
      rintro ⟨⟩
      exact hk rfl
    exact ⟨host', engine', hosts.modify_other hk _, .elsewhere hsteps foreign
      (postpones_of_serves hserves) fun assured calm =>
        calm_of_serves hserves (calm.quiet request made) assured⟩

theorem passes_finish (h : place.Hosts session host engine) {number : Nat}
    (ha : session.after? (.finish number) = some later) :
    place.Passes ⟨session, .finish number, later⟩ host engine := by
  obtain ⟨outcome, hw, rfl⟩ := Session.after?_finish ha
  by_cases hk : number = place.number
  · subst hk
    have before := Session.job_of_writing? h.queue hw
    exact ⟨_, engine, h.modify rfl rfl rfl, .finish rfl before rfl rfl rfl⟩
  · exact ⟨host, engine, h.modify_other hk _, .idle rfl nofun⟩

theorem passes_breakDown (h : place.Hosts session host engine) {number : Nat}
    (ha : session.after? (.breakDown number) = some later) :
    place.Passes ⟨session, .breakDown number, later⟩ host engine := by
  obtain ⟨next, hw, rfl⟩ := Session.after?_breakDown ha
  by_cases hk : number = place.number
  · subst hk
    have before := Session.job_of_writing? h.queue hw
    exact ⟨_, engine, h.modify rfl rfl rfl, .breakDown rfl before rfl rfl rfl⟩
  · exact ⟨host, engine, h.modify_other hk _, .idle rfl nofun⟩

/-- **Every moment of a run** is one of the five things that it can be for a queue. -/
theorem after (h : place.Hosts session host engine) {event : SessionEvent}
    (ha : session.after? event = some later) :
    place.Passes ⟨session, event, later⟩ host engine := by
  cases event with
  | request request => exact h.passes_request ha
  | start number => exact h.passes_start ha
  | write number => exact h.passes_write ha
  | finish number => exact h.passes_finish ha
  | breakDown number => exact h.passes_breakDown ha
  | pass time aging =>
    cases ha
    exact ⟨host, engine, ⟨h.queue, h.engine, h.outcomes, h.resolver, h.writer, h.schema, h.route⟩,
      .idle rfl nofun⟩
  | inject faults =>
    cases ha
    refine ⟨host, { engine with faults }, ⟨h.queue, ?_, h.outcomes, h.resolver, h.writer, h.schema,
      h.route⟩, .elsewhere (.refl host) nofun rfl fun assured calm => ?_⟩
    · dsimp only
      rw [h.engine]
      rfl
    · exact ⟨.of_indices rfl rfl, fun ha _ => calm.harmless faults rfl ha⟩

end Hosts

/-! ## What a moment is for the queue itself -/

theorem run_steps (place : Place) (moment : Moment) (queue : Queue) :
    ∃ step wait cut, queue.Cuts step (queue.accepted (place.steps moment)) wait cut ∧
      queue.run (place.steps moment) = step.queue := by
  have idle : place.steps moment = [] → ∃ step wait cut,
      queue.Cuts step (queue.accepted (place.steps moment)) wait cut ∧
        queue.run (place.steps moment) = step.queue := by
    intro hn
    rw [hn]
    exact ⟨⟨.ok none, queue, []⟩, false, [], .unchanged _ _, rfl⟩
  cases hr : moment.request? with
  | none => exact idle (by rw [steps, hr])
  | some request =>
    cases request with
    | queue other request =>
      cases request with
      | perform action =>
        by_cases hn : other = place.number
        · have one : place.steps moment =
              [.perform place.resolver moment.before.batchClock action] := by
            rw [steps, hr]
            exact if_pos hn
          obtain ⟨cut, hc⟩ :=
            queue.perform_cuts place.resolver moment.before.batchClock action
          rw [one]
          refine ⟨_, action.waits queue.strict, cut, ?_, rfl⟩
          rw [Queue.accepted, Queue.accepted, List.append_nil]
          exact hc
        · refine idle ?_
          rw [steps, hr]
          exact if_neg hn
      | outcome job => exact idle (by rw [steps, hr])
      | drained => exact idle (by rw [steps, hr])
    | _ => exact idle (by rw [steps, hr])

theorem writing_of_run {queue later : Queue} (h : later = queue.run (place.steps moment)) :
    later.writing = queue.writing ∧ later.completed = queue.completed := by
  obtain ⟨step, wait, cut, hc, hr⟩ := run_steps place moment queue
  rw [h, hr]
  exact ⟨hc.writing, hc.completed⟩

theorem knows_of_accepted {queue : Queue} {item : WorkItem}
    (h : item ∈ queue.accepted (place.steps moment)) : place.resolver.Knows item := by
  unfold steps at h
  split at h
  · split at h
    · rw [Queue.accepted, Queue.accepted, List.append_nil] at h
      exact Queue.knows_of_accepted h
    · cases h
  · cases h

theorem Turn.queue_of_request (h : place.Turn moment host engine host' engine')
    {request : SystemRequest} (event : moment.event = .request request) :
    host'.queue = host.queue.run (place.steps moment) := by
  cases h with
  | elsewhere steps => exact steps.queue
  | request own => cases event.symm.trans own
  | start own => cases event.symm.trans own
  | finish own => cases event.symm.trans own
  | breakDown own => cases event.symm.trans own

/-- What a moment is for the queue itself. -/
theorem Turn.queue_cases (h : place.Turn moment host engine host' engine') :
    host'.queue = host.queue.run (place.steps moment) ∨
      (∃ job, host.queue.startNext = some (job, host'.queue)) ∨
      (∃ outcome, host'.queue = host.queue.finish outcome) ∨
      host'.queue = host.queue.breakDown := by
  cases h with
  | elsewhere steps => exact .inl steps.queue
  | request event before after queue => exact .inl queue
  | start event next => exact .inr (.inl ⟨_, next⟩)
  | finish event before queue => exact .inr (.inr (.inl ⟨_, queue⟩))
  | breakDown event before queue => exact .inr (.inr (.inr queue))

end Place

end EntitySearch

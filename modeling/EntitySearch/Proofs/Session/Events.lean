import EntitySearch.Proofs.Queue.Conservation
import EntitySearch.Session.Schedule
import Mathlib.Data.List.Induction

/-!
# What happens in a session

The tasks of a session go on in any order: whenever a request can be carried out it may be carried
out next, a writer may take its next job or complete the one it has written, time may pass, and what
is to go wrong in the engine may change. This is more than what any schedule of turns lets happen.

* `SessionEvent`, `Session.after?`: what happens, and the session after it.
* `Moment`, `Session.play?`, `Session.last`: the moments of a run, and the session after them;
  `Session.play?_head`, `Session.play?_append`, `Session.run_induction`.
* `Session.serve?_engine`: what a request does to the engine and to the schema.
* `Session.serve?_queue`: what a request does to a queue.
-/

namespace EntitySearch

/-- Something that happens in a session. -/
inductive SessionEvent where
  /-- A request of a task that is not a writer is carried out. -/
  | request (request : SystemRequest)
  /-- The writer of a queue takes its next job. -/
  | start (queue : Nat)
  /-- The next request of the writer of a queue is carried out. -/
  | write (queue : Nat)
  /-- The writer of a queue completes its job. -/
  | finish (queue : Nat)
  /-- The writer of a queue is broken off. -/
  | breakDown (queue : Nat)
  /-- Time passes, and batches age. -/
  | pass (time aging : Duration)
  /-- What is to go wrong in the engine changes. -/
  | inject (faults : Faults)

namespace Session

/-- What the writer of a queue has left to do for its job. -/
def writing? (session : Session) (number : Nat) :
    Option (Procedure System (Except BridgeError Unit)) :=
  match (session.queues[number]?).bind (·.job) with
  | some (.waiting rest) => some rest
  | _ => none

/-- The session after something that happens; there is none if it cannot happen now. -/
def after? (session : Session) : SessionEvent → Option Session
  | .request request => (session.serve? request).map (·.2)
  | .start number => (session.queues[number]?).bind (session.startJob number)
  | .write number =>
    match session.writing? number with
    | some (.ask request next) =>
      (session.serve? request).map fun (reply, session) =>
        session.modifyQueue number fun host => { host with job := some (.waiting (next reply)) }
    | _ => none
  | .finish number =>
    match session.writing? number with
    | some (.done outcome) =>
      some (session.modifyQueue number fun host =>
        { host with queue := host.queue.finish outcome, job := none })
    | _ => none
  | .breakDown number =>
    match session.writing? number with
    | some (.ask .abandon _) =>
      some (session.modifyQueue number fun host =>
        { host with queue := host.queue.breakDown, job := none })
    | _ => none
  | .pass time aging =>
    some { session with clock := session.clock + time, batchClock := session.batchClock + aging }
  | .inject faults =>
    some { session with engine := session.engine.map fun engine => { engine with faults } }

end Session

/-- A moment of a run: something that happens, and the session before and after it. -/
structure Moment where
  before : Session
  event : SessionEvent
  after : Session

/-- The moments of a run; there are none if something in it cannot happen. -/
def Session.play? (session : Session) : List SessionEvent → Option (List Moment)
  | [] => some []
  | event :: rest => do
    let after ← session.after? event
    let moments ← after.play? rest
    return ⟨session, event, after⟩ :: moments

/-- The session after the moments of a run. -/
def Session.last (session : Session) : List Moment → Session
  | [] => session
  | moment :: rest => moment.after.last rest

/-- The request that is carried out at a moment. -/
def Moment.request? (moment : Moment) : Option SystemRequest :=
  match moment.event with
  | .request request => some request
  | .write number =>
    match moment.before.writing? number with
    | some (.ask request _) => some request
    | _ => none
  | _ => none

/-- Whether a queue of a session has made steps while its writer has not gone on. -/
structure HostedQueue.Steps (host : HostedQueue) (steps : List QueueEvent) (later : HostedQueue) :
    Prop where
  queue : later.queue = host.queue.run steps
  job : later.job = host.job
  writer : later.writer = host.writer
  schema : later.schema = host.schema
  route : later.route = host.route

theorem HostedQueue.Steps.refl (host : HostedQueue) : host.Steps [] host := ⟨rfl, rfl, rfl, rfl, rfl⟩

/-- How an engine in memory serves a request: it receives it, and then it answers it. -/
def MemoryEngine.Serves (engine : MemoryEngine) :
    (request : SystemRequest) → System.Reply request → MemoryEngine → Prop
  | .send .engine call, receipt, after =>
    receipt = .takes (engine.delay call) ∧ after = engine.record call
  | .receive call delay, outcome, after => engine.answer? delay call = (after, outcome)
  | _, _, after => after = engine

namespace Session

variable {session later : Session} {number : Nat} {host : HostedQueue}

/-! ## Runs -/

theorem play?_cons {event : SessionEvent} {rest : List SessionEvent} {moments : List Moment}
    (h : session.play? (event :: rest) = some moments) :
    ∃ after tail, session.after? event = some after ∧ after.play? rest = some tail ∧
      moments = ⟨session, event, after⟩ :: tail := by
  obtain ⟨after, ha, h⟩ := Option.bind_eq_some_iff.mp h
  obtain ⟨tail, ht, h⟩ := Option.bind_eq_some_iff.mp h
  exact ⟨after, tail, ha, ht, (Option.some.inj h).symm⟩

theorem play?_of_after? {event : SessionEvent} {rest : List SessionEvent} {moments : List Moment}
    (ha : session.after? event = some later) (run : later.play? rest = some moments) :
    session.play? (event :: rest) = some (⟨session, event, later⟩ :: moments) := by
  rw [play?, ha]
  change (later.play? rest).bind _ = _
  rw [run]
  rfl

theorem mem_of_play? {moment : Moment} : ∀ {events : List SessionEvent} {moments : List Moment}
    {session : Session}, session.play? events = some moments → moment ∈ moments →
      moment.event ∈ events
  | [], moments, _, h, hm => by
    cases h
    cases hm
  | event :: rest, moments, session, h, hm => by
    obtain ⟨after, tail, -, ht, rfl⟩ := play?_cons h
    rcases List.mem_cons.mp hm with rfl | hm
    · exact List.mem_cons_self
    · exact List.mem_cons_of_mem _ (mem_of_play? ht hm)

theorem play?_split {moment : Moment} {later : List Moment} : ∀ {events : List SessionEvent}
    {earlier : List Moment} {session : Session},
      session.play? events = some (earlier ++ moment :: later) →
        moment.before.after? moment.event = some moment.after ∧
          ∃ rest, moment.after.play? rest = some later
  | [], earlier, _, h => by
    have hn := Option.some.inj h
    cases earlier <;> cases hn
  | event :: rest, [], session, h => by
    obtain ⟨after, tail, ha, ht, hm⟩ := play?_cons h
    cases hm
    exact ⟨ha, rest, ht⟩
  | event :: rest, first :: earlier, session, h => by
    obtain ⟨after, tail, ha, ht, hm⟩ := play?_cons h
    cases hm
    exact play?_split ht

/-- The first moment of a run. -/
theorem play?_head {moment : Moment} {rest : List Moment} {events : List SessionEvent}
    (h : session.play? events = some (moment :: rest)) :
    moment.before = session ∧ session.after? moment.event = some moment.after ∧
      ∃ tail, moment.after.play? tail = some rest := by
  cases events with
  | nil => cases h
  | cons event tail =>
    obtain ⟨after, moments, ha, ht, hm⟩ := play?_cons h
    cases hm
    exact ⟨rfl, ha, tail, ht⟩

/-- A run in two parts. -/
theorem play?_append {later : List Moment} : ∀ {earlier : List Moment} {events : List SessionEvent}
    {session : Session}, session.play? events = some (earlier ++ later) →
      ∃ first second, session.play? first = some earlier ∧
        (session.last earlier).play? second = some later
  | [], events, _, h => ⟨[], events, rfl, h⟩
  | moment :: earlier, events, session, h => by
    obtain ⟨rfl, ha, tail, ht⟩ := play?_head h
    obtain ⟨first, second, hf, hs⟩ := play?_append ht
    refine ⟨moment.event :: first, second, ?_, hs⟩
    rw [play?, ha]
    change (moment.after.play? first).bind _ = _
    rw [hf]
    rfl

theorem last_append (session : Session) (earlier later : List Moment) :
    session.last (earlier ++ later) = (session.last earlier).last later := by
  induction earlier generalizing session with
  | nil => rfl
  | cons moment rest ih => exact ih moment.after

/-- What holds at first and is kept by every moment holds after a run. -/
theorem run_induction {motive : List Moment → Prop} {events : List SessionEvent}
    {moments : List Moment} (run : session.play? events = some moments) (start : motive [])
    (step : ∀ earlier moment, moment.before = session.last earlier →
      moment.before.after? moment.event = some moment.after → motive earlier →
        motive (earlier ++ [moment])) : motive moments := by
  induction moments using List.reverseRecOn generalizing events with
  | nil => exact start
  | append_singleton earlier moment ih =>
    obtain ⟨first, second, hf, hs⟩ := play?_append run
    obtain ⟨same, ha, -⟩ := play?_head hs
    exact step earlier moment same (same ▸ ha) (ih hf)

/-! ## What an event does -/

theorem writing?_eq_some {rest : Procedure System (Except BridgeError Unit)}
    (h : session.writing? number = some rest) :
    ∃ host, session.queues[number]? = some host ∧ host.job = some (.waiting rest) := by
  unfold writing? at h
  split at h
  · next own hj =>
    cases h
    exact Option.bind_eq_some_iff.mp hj
  · cases h

theorem job_of_writing? (hq : session.queues[number]? = some host)
    {rest : Procedure System (Except BridgeError Unit)}
    (writing : session.writing? number = some rest) : host.job = some (.waiting rest) := by
  obtain ⟨own, ho, hj⟩ := writing?_eq_some writing
  rw [hq] at ho
  cases ho
  exact hj

theorem after?_request {request : SystemRequest}
    (h : session.after? (.request request) = some later) :
    ∃ reply, session.serve? request = some (reply, later) := by
  obtain ⟨⟨reply, next⟩, hs, hl⟩ := Option.map_eq_some_iff.mp h
  subst hl
  exact ⟨reply, hs⟩

theorem after?_start (h : session.after? (.start number) = some later) :
    ∃ host job queue, session.queues[number]? = some host ∧ host.job = none ∧
      host.queue.startNext = some (job, queue) ∧
      later = session.modifyQueue number fun own =>
        { own with
          queue
          job := some (.waiting ((host.writer.write (session.resolver host.schema) job.items).expand
            (System.writing host.route number))) } := by
  obtain ⟨host, hq, hs⟩ := Option.bind_eq_some_iff.mp h
  unfold startJob at hs
  split at hs
  · next job queue hj hn =>
    cases hs
    exact ⟨host, job, queue, hq, hj, hn, rfl⟩
  · cases hs

theorem after?_write (h : session.after? (.write number) = some later) :
    ∃ request next reply mid, session.writing? number = some (.ask request next) ∧
      session.serve? request = some (reply, mid) ∧
      later = mid.modifyQueue number fun host =>
        { host with job := some (.waiting (next reply)) } := by
  rw [after?] at h
  split at h
  · next request next hw =>
    obtain ⟨⟨reply, mid⟩, hs, hl⟩ := Option.map_eq_some_iff.mp h
    exact ⟨request, next, reply, mid, hw, hs, hl.symm⟩
  · cases h

theorem after?_finish (h : session.after? (.finish number) = some later) :
    ∃ outcome, session.writing? number = some (.done outcome) ∧
      later = session.modifyQueue number fun host =>
        { host with queue := host.queue.finish outcome, job := none } := by
  rw [after?] at h
  split at h
  · next outcome hw =>
    cases h
    exact ⟨outcome, hw, rfl⟩
  · cases h

theorem after?_breakDown (h : session.after? (.breakDown number) = some later) :
    ∃ next, session.writing? number = some (.ask SystemRequest.abandon next) ∧
      later = session.modifyQueue number fun host =>
        { host with queue := host.queue.breakDown, job := none } := by
  rw [after?] at h
  split at h
  · next next hw =>
    cases h
    exact ⟨next, hw, rfl⟩
  · cases h

/-! ## The engine and the schema -/

/-- Whether two sessions have the same engine and the same schema. -/
structure Alike (session later : Session) : Prop where
  engine : later.engine = session.engine
  outcomes : later.outcomes = session.outcomes
  registry : later.registry = session.registry
  hidden : later.hidden = session.hidden

theorem Alike.refl (session : Session) : Alike session session := ⟨rfl, rfl, rfl, rfl⟩

theorem Alike.trans {last : Session} (h : Alike session later) (h' : Alike later last) :
    Alike session last :=
  ⟨h'.engine.trans h.engine, h'.outcomes.trans h.outcomes, h'.registry.trans h.registry,
    h'.hidden.trans h.hidden⟩

theorem alike_summon (session : Session) (task : TaskName) : Alike session (session.summon task) := by
  unfold summon
  split <;> exact ⟨rfl, rfl, rfl, rfl⟩

theorem alike_summonWriter (session : Session) (number : Nat) :
    Alike session (session.summonWriter number) := by
  unfold summonWriter
  split
  · exact .refl session
  split
  · exact alike_summon session _
  · exact .refl session

theorem alike_perform (session : Session) (number : Nat) (action : QueueAction) :
    Alike session (session.perform number action).2 := by
  unfold perform
  split
  · exact .refl session
  · next host _ =>
    let step := host.queue.perform (session.resolver host.schema) session.batchClock action
    let moved := session.modifyQueue number fun host => { host with queue := step.queue }
    have hm : Alike session (moved.observe step.measurements) := ⟨rfl, rfl, rfl, rfl⟩
    exact hm.trans (alike_summonWriter _ number)

theorem alike_startQueueFor (session : Session) (host : HostedBridge) (request : BridgeRequest) :
    Alike session (session.startQueueFor host request) := by
  unfold startQueueFor
  split
  · let hosted := { session with
      queues := session.queues ++ [hostQueue host.config.queueSettings host.schema host.route] }
    have hh : Alike session hosted := ⟨rfl, rfl, rfl, rfl⟩
    exact hh.trans (alike_summon hosted _)
  · exact .refl session

theorem eq_of_outcome {job : Nat} {reply : Queueing.Reply (.outcome job)}
    (h : session.serveQueue? number (.outcome job) = some (reply, later)) : later = session := by
  simp only [serveQueue?] at h
  split at h
  · cases h
    rfl
  · obtain ⟨outcome, -, ho⟩ := Option.map_eq_some_iff.mp h
    cases ho
    rfl

theorem eq_of_drained {reply : Queueing.Reply .drained}
    (h : session.serveQueue? number .drained = some (reply, later)) : later = session := by
  simp only [serveQueue?] at h
  split at h
  · cases h
    rfl
  split at h
  · cases h
    rfl
  · cases h

theorem alike_serveQueue? {request : QueueRequest} {reply : Queueing.Reply request}
    (h : session.serveQueue? number request = some (reply, later)) : Alike session later := by
  cases request with
  | perform action =>
    have hp := congrArg Prod.snd (Option.some.inj h)
    subst hp
    exact alike_perform session number action
  | outcome job => exact eq_of_outcome h ▸ .refl session
  | drained => exact eq_of_drained h ▸ .refl session

theorem alike_serveBridge? {request : BridgeRequest} {reply : Bridging.Reply request}
    (h : session.serveBridge? number request = some (reply, later)) : Alike session later := by
  unfold serveBridge? at h
  split at h
  · cases h
  · next host _ =>
    split at h
    · cases h
    · cases h
      have hs := alike_startQueueFor session host request
      exact ⟨hs.engine, hs.outcomes, hs.registry, hs.hidden⟩

theorem alike_serveGuard? {request : GuardRequest} {reply : Guarding.Reply request}
    (h : session.serveGuard? number request = some (reply, later)) : Alike session later := by
  unfold serveGuard? at h
  split at h
  · cases h
  · obtain ⟨answer, -, ha⟩ := Option.map_eq_some_iff.mp h
    cases ha
    exact ⟨rfl, rfl, rfl, rfl⟩

theorem eq_of_join {task : Nat} {reply : System.Reply (.join task)}
    (h : session.serve? (.join task) = some (reply, later)) : later = session := by
  simp only [serve?] at h
  split at h
  · cases h
    rfl
  · cases h
  · cases h
  · cases h
    rfl
  · cases h
    rfl

/-- What a request does to the engine and the schema of a session. -/
theorem serve?_engine {request : SystemRequest} {reply : System.Reply request}
    {engine : MemoryEngine} (memory : session.engine = some engine)
    (unscripted : session.outcomes = []) (h : session.serve? request = some (reply, later)) :
    later.outcomes = [] ∧ later.registry = session.registry ∧ later.hidden = session.hidden ∧
      ∃ after, later.engine = some after ∧ engine.Serves request reply after := by
  have quiet : Alike session later → later.outcomes = [] ∧ later.registry = session.registry ∧
      later.hidden = session.hidden ∧ later.engine = some engine := fun ha =>
    ⟨ha.outcomes.trans unscripted, ha.registry, ha.hidden, ha.engine.trans memory⟩
  cases request with
  | send route call =>
    have hs := Option.some.inj h
    cases route with
    | nowhere address =>
      cases hs
      exact ⟨unscripted, rfl, rfl, engine, memory, rfl⟩
    | engine =>
      simp only [send, unscripted, takeOutcome?, memory] at hs
      cases hs
      exact ⟨rfl, rfl, rfl, _, rfl, rfl, rfl⟩
  | receive call delay =>
    have hr := Option.some.inj h
    simp only [receive, memory] at hr
    cases hr
    exact ⟨unscripted, rfl, rfl, _, rfl, rfl⟩
  | abandon => cases h
  | guard table request =>
    obtain ⟨ho, hr, hh, he⟩ := quiet (alike_serveGuard? h)
    exact ⟨ho, hr, hh, engine, he, rfl⟩
  | queue number request =>
    obtain ⟨ho, hr, hh, he⟩ := quiet (alike_serveQueue? h)
    exact ⟨ho, hr, hh, engine, he, rfl⟩
  | bridge number request =>
    obtain ⟨ho, hr, hh, he⟩ := quiet (alike_serveBridge? h)
    exact ⟨ho, hr, hh, engine, he, rfl⟩
  | join task =>
    rw [eq_of_join h]
    exact ⟨unscripted, rfl, rfl, engine, memory, rfl⟩
  | _ =>
    cases h
    exact ⟨unscripted, rfl, rfl, engine, memory, rfl⟩

/-! ## Queues -/

theorem queues_modifyQueue (session : Session) (other : Nat)
    (change : HostedQueue → HostedQueue) (number : Nat) :
    (session.modifyQueue other change).queues[number]? =
      if other = number then (session.queues[number]?).map change else session.queues[number]? := by
  rw [modifyQueue, List.getElem?_modify]
  by_cases h : other = number
  · simp [h]
  · simp [h]

theorem queue_modify_other (hq : session.queues[number]? = some host) {other : Nat}
    (hn : other ≠ number) (change : HostedQueue → HostedQueue) :
    (session.modifyQueue other change).queues[number]? = some host := by
  rw [queues_modifyQueue, if_neg hn, hq]

theorem queue_modify (hq : session.queues[number]? = some host)
    (change : HostedQueue → HostedQueue) :
    (session.modifyQueue number change).queues[number]? = some (change host) := by
  rw [queues_modifyQueue, if_pos rfl, hq]
  rfl

theorem queues_summon (session : Session) (task : TaskName) :
    (session.summon task).queues = session.queues := by
  unfold summon
  split <;> rfl

theorem queues_summonWriter (session : Session) (number : Nat) :
    (session.summonWriter number).queues = session.queues := by
  unfold summonWriter
  split
  · rfl
  split
  · exact queues_summon session _
  · rfl

/-- The step of a queue that a request makes. -/
def stepsOf (session : Session) (number : Nat) (host : HostedQueue) : SystemRequest → List QueueEvent
  | .queue other (.perform action) =>
    if other = number then [.perform (session.resolver host.schema) session.batchClock action]
    else []
  | _ => []

theorem perform_steps (h : session.queues[number]? = some host) (other : Nat)
    (action : QueueAction) :
    ∃ after, (session.perform other action).2.queues[number]? = some after ∧
      host.Steps (session.stepsOf number host (.queue other (.perform action))) after := by
  unfold perform
  cases ho : session.queues[other]? with
  | none =>
    have hn : ¬ other = number := by
      rintro rfl
      rw [h] at ho
      cases ho
    refine ⟨host, h, ?_⟩
    rw [stepsOf, if_neg hn]
    exact .refl host
  | some own =>
    dsimp only
    rw [queues_summonWriter]
    change ∃ after, (session.modifyQueue other _).queues[number]? = some after ∧ _
    rw [queues_modifyQueue, h, stepsOf]
    by_cases hn : other = number
    · rw [if_pos hn, if_pos hn]
      rw [hn, h] at ho
      cases ho
      exact ⟨_, rfl, rfl, rfl, rfl, rfl, rfl⟩
    · rw [if_neg hn, if_neg hn]
      exact ⟨host, rfl, .refl host⟩

theorem queues_send (session : Session) (route : Route) (call : Call) :
    (session.send route call).2.queues = session.queues := by
  cases route with
  | nowhere address => rfl
  | engine =>
    unfold send
    dsimp only
    split
    · rfl
    split <;> rfl

theorem queues_receive (session : Session) (call : Call) (delay : Duration) :
    (session.receive call delay).2.queues = session.queues := by
  unfold receive
  split <;> rfl

theorem queues_serveGuard? {table : Nat} {request : GuardRequest} {reply : Guarding.Reply request}
    (h : session.serveGuard? table request = some (reply, later)) :
    later.queues = session.queues := by
  unfold serveGuard? at h
  split at h
  · cases h
  · obtain ⟨answer, -, ha⟩ := Option.map_eq_some_iff.mp h
    cases ha
    rfl

theorem queues_serveBridge? {bridge : Nat} {request : BridgeRequest}
    {reply : Bridging.Reply request} (hq : session.queues[number]? = some host)
    (h : session.serveBridge? bridge request = some (reply, later)) :
    later.queues[number]? = some host := by
  have started : ∀ owner, (session.startQueueFor owner request).queues[number]? = some host := by
    intro owner
    unfold startQueueFor
    split
    · rw [startQueue, queues_summon]
      exact List.getElem?_append_left (List.getElem?_eq_some_iff.mp hq).1 ▸ hq
    · exact hq
  unfold serveBridge? at h
  split at h
  · cases h
  split at h
  · cases h
  · cases h
    exact started _

theorem serveQueue?_queue {other : Nat} {request : QueueRequest} {reply : Queueing.Reply request}
    (hq : session.queues[number]? = some host)
    (h : session.serveQueue? other request = some (reply, later)) :
    ∃ after, later.queues[number]? = some after ∧
      host.Steps (session.stepsOf number host (.queue other request)) after := by
  cases request with
  | perform action =>
    have hp := congrArg Prod.snd (Option.some.inj h)
    subst hp
    exact perform_steps hq other action
  | outcome job =>
    rw [eq_of_outcome h]
    exact ⟨host, hq, .refl host⟩
  | drained =>
    rw [eq_of_drained h]
    exact ⟨host, hq, .refl host⟩

/-- **What a request does to a queue**: it makes a step of it, if it is one, and changes neither the
writer's job nor how jobs are written. -/
theorem serve?_queue {request : SystemRequest} {reply : System.Reply request}
    (hq : session.queues[number]? = some host) (h : session.serve? request = some (reply, later)) :
    ∃ after, later.queues[number]? = some after ∧
      host.Steps (session.stepsOf number host request) after := by
  have quiet : later.queues[number]? = some host →
      ∃ after, later.queues[number]? = some after ∧ host.Steps [] after :=
    fun hl => ⟨host, hl, .refl host⟩
  cases request with
  | send route call =>
    have hs := congrArg Prod.snd (Option.some.inj h)
    subst hs
    refine quiet ?_
    rw [queues_send]
    exact hq
  | receive call delay =>
    have hr := congrArg Prod.snd (Option.some.inj h)
    subst hr
    refine quiet ?_
    rw [queues_receive]
    exact hq
  | abandon => cases h
  | publish queue failure =>
    cases h
    change ∃ after, (session.modifyQueue queue _).queues[number]? = some after ∧ host.Steps [] after
    rw [queues_modifyQueue, hq]
    split
    · exact ⟨_, rfl, rfl, rfl, rfl, rfl, rfl⟩
    · exact ⟨host, rfl, .refl host⟩
  | guard table request => exact quiet (queues_serveGuard? h ▸ hq)
  | queue other request => exact serveQueue?_queue hq h
  | bridge bridge request => exact quiet (queues_serveBridge? hq h)
  | join task =>
    refine quiet ?_
    rw [eq_of_join h]
    exact hq
  | _ =>
    cases h
    exact quiet hq

end Session

end EntitySearch

import EntitySearch.Proofs.Session.Events

/-!
# A queue from moment to moment

Whatever engine a session has, a moment of a run is one of five things for a queue: its writer takes
a job, has a request carried out, completes its job or breaks down, or something happens elsewhere,
which may be a step of a caller on the queue.

* `Moment.stepsOn`: the step of a caller that a moment is for a queue.
* `Moment.accepted`, `Moment.acceptedIn`: the items that a queue accepts in a run.
* `HostedQueue.Turn`: what a moment is for a queue; `Session.turn_of_after?`,
  `Session.queue_induction`.
* `Moment.written?`: the request of a writer that is carried out at a moment, with its reply.
-/

namespace EntitySearch

/-- The queue whose writer goes on, if a writer does. -/
def SessionEvent.writer? : SessionEvent → Option Nat
  | .start number | .write number | .finish number | .breakDown number => some number
  | .request _ | .pass _ _ | .inject _ => none

/-- The step of a caller that a moment is for a queue. -/
def Moment.stepsOn (moment : Moment) (number : Nat) (host : HostedQueue) : List QueueEvent :=
  match moment.request? with
  | some request => moment.before.stepsOf number host request
  | none => []

/-- The request of the writer of a queue that is carried out at a moment, with its reply. -/
def Moment.written? (moment : Moment) (number : Nat) :
    Option ((request : SystemRequest) × System.Reply request) :=
  match moment.event with
  | .write writer =>
    if writer = number then
      match moment.before.writing? number with
      | some (.ask request _) =>
        (moment.before.serve? request).map fun served => ⟨request, served.1⟩
      | _ => none
    else none
  | _ => none

namespace Moment

theorem stepsOn_cases (moment : Moment) (number : Nat) (host : HostedQueue) :
    moment.stepsOn number host = [] ∨
      ∃ action, moment.request? = some (.queue number (.perform action)) ∧
        moment.stepsOn number host =
          [.perform (moment.before.resolver host.schema) moment.before.batchClock action] := by
  unfold stepsOn
  split
  · next request made =>
    unfold Session.stepsOf
    split
    · next other action =>
      by_cases same : other = number
      · rw [if_pos same]
        exact .inr ⟨action, same ▸ made, rfl⟩
      · exact .inl (if_neg same)
    · exact .inl rfl
  · exact .inl rfl

theorem run_stepsOn (moment : Moment) (number : Nat) (host : HostedQueue) (queue : Queue) :
    ∃ step wait cut, queue.Cuts step (queue.accepted (moment.stepsOn number host)) wait cut ∧
      queue.run (moment.stepsOn number host) = step.queue := by
  rcases moment.stepsOn_cases number host with idle | ⟨action, -, one⟩
  · rw [idle]
    exact ⟨⟨.ok none, queue, []⟩, false, [], .unchanged _ _, rfl⟩
  · obtain ⟨cut, hc⟩ :=
      queue.perform_cuts (moment.before.resolver host.schema) moment.before.batchClock action
    rw [one]
    refine ⟨_, action.waits queue.strict, cut, ?_, rfl⟩
    rw [Queue.accepted, Queue.accepted, List.append_nil]
    exact hc

end Moment

/-- The item that a queue accepts at a moment: one that is handed to it and not refused. -/
def Moment.accepted (moment : Moment) (number : Nat) : List WorkItem :=
  match moment.request? with
  | some (.queue other (.perform action)) =>
    if other = number then action.accepted (moment.before.perform number action).1 else []
  | _ => []

/-- The items that a queue accepts in a run, in the order in which it accepts them. -/
def Moment.acceptedIn (moments : List Moment) (number : Nat) : List WorkItem :=
  moments.flatMap (·.accepted number)

theorem Moment.accepted_of_hosted {moment : Moment} {number : Nat} {host : HostedQueue}
    (hq : moment.before.queues[number]? = some host) :
    moment.accepted number = host.queue.accepted (moment.stepsOn number host) := by
  unfold accepted stepsOn
  cases moment.request? with
  | none => rfl
  | some request =>
    cases request with
    | queue other request =>
      cases request with
      | perform action =>
        dsimp only [Session.stepsOf]
        by_cases same : other = number
        · rw [if_pos same, if_pos same, Queue.accepted, Queue.accepted, List.append_nil,
            Queue.accepts, Session.perform, hq]
        · rw [if_neg same, if_neg same]
          rfl
      | _ => rfl
    | _ => rfl

namespace HostedQueue

/-- What the writer of a queue does for a job. -/
def writing (host : HostedQueue) (number : Nat) (resolver : Resolver) (job : Job) :
    Procedure System (Except BridgeError Unit) :=
  (host.writer.write resolver job.items).expand (System.writing host.route number)

/-- What a moment is for a queue. -/
inductive Turn (number : Nat) (moment : Moment) (host host' : HostedQueue) : Prop where
  /-- Something happens elsewhere. -/
  | elsewhere (steps : host.Steps (moment.stepsOn number host) host')
      (foreign : moment.event.writer? ≠ some number) (unwritten : moment.written? number = none)
  /-- A request of the writer is carried out. -/
  | request {request : SystemRequest} {next : System.Reply request → _}
      {reply : System.Reply request} {served : Session}
      (event : moment.event = .write number) (made : moment.request? = some request)
      (before : host.job = some (.waiting (.ask request next)))
      (serves : moment.before.serve? request = some (reply, served))
      (later : moment.after = served.modifyQueue number fun own =>
        { own with job := some (.waiting (next reply)) })
      (steps : host.Steps (moment.stepsOn number host) { host' with job := host.job })
      (after : host'.job = some (.waiting (next reply)))
      (written : moment.written? number = some ⟨request, reply⟩)
  /-- The writer takes a job. -/
  | start {job : Job} {queue : Queue} (event : moment.event = .start number)
      (free : host.job = none) (next : host.queue.startNext = some (job, queue))
      (same : host' = { host with
        queue
        job := some (.waiting (host.writing number (moment.before.resolver host.schema) job)) })
  /-- The writer completes its job. -/
  | finish {outcome : Except BridgeError Unit} (event : moment.event = .finish number)
      (before : host.job = some (.waiting (.done outcome)))
      (same : host' = { host with queue := host.queue.finish outcome, job := none })
  /-- The writer breaks down. -/
  | breakDown {next} (event : moment.event = .breakDown number)
      (before : host.job = some (.waiting (.ask SystemRequest.abandon next)))
      (same : host' = { host with queue := host.queue.breakDown, job := none })

variable {number : Nat} {moment : Moment} {host host' : HostedQueue}

theorem Turn.route (h : host.Turn number moment host') : host'.route = host.route := by
  cases h with
  | elsewhere steps => exact steps.route
  | request event made before serves later steps => exact steps.route
  | start event free next same => rw [same]
  | finish event before same => rw [same]
  | breakDown event before same => rw [same]

/-- A moment adds the item that is accepted to the contents, unless the writer breaks down. -/
theorem Turn.contents (turn : host.Turn number moment host')
    (whole : moment.event ≠ .breakDown number) (sound : host.queue.Sound) :
    host'.queue.Sound ∧ host'.queue.contents =
      host.queue.contents ++ host.queue.accepted (moment.stepsOn number host) := by
  have quiet : moment.request? = none → moment.stepsOn number host = [] := by
    intro hr
    rw [Moment.stepsOn, hr]
  cases turn with
  | elsewhere steps =>
    rw [steps.queue]
    exact Queue.contents_run _ sound
  | request event made before serves later steps =>
    rw [show host'.queue = _ from steps.queue]
    exact Queue.contents_run _ sound
  | start event free next same =>
    rw [quiet (by rw [Moment.request?, event]), same, Queue.accepted, List.append_nil]
    exact ⟨sound.startNext next, Queue.contents_startNext next⟩
  | finish event before same =>
    rw [quiet (by rw [Moment.request?, event]), same, Queue.accepted, List.append_nil]
    exact ⟨sound.finish _, Queue.contents_finish _ _⟩
  | breakDown event => exact absurd event whole

/-- Whether the writer of a queue has broken down. -/
structure Gone (host : HostedQueue) : Prop where
  free : host.job = none
  gone : host.queue.writerGone = true

theorem Gone.turn (h : host.Gone) (turn : host.Turn number moment host') :
    host'.Gone ∧ moment.event ≠ .write number := by
  cases turn with
  | elsewhere steps foreign =>
    obtain ⟨step, wait, cut, hc, hr⟩ := moment.run_stepsOn number host host.queue
    refine ⟨⟨steps.job.trans h.free, ?_⟩, fun event => foreign (by rw [event]; rfl)⟩
    rw [steps.queue, hr, hc.writer, h.gone]
  | request event made before =>
    rw [h.free] at before
    cases before
  | start event free next =>
    have present := Queue.present_of_startNext next
    rw [h.gone] at present
    cases present
  | finish event before =>
    rw [h.free] at before
    cases before
  | breakDown event before =>
    rw [h.free] at before
    cases before

end HostedQueue

namespace Session

variable {session later : Session} {number : Nat} {host : HostedQueue}

theorem turn_idle {event : SessionEvent}
    (requestless : (⟨session, event, later⟩ : Moment).request? = none)
    (foreign : event.writer? ≠ some number) :
    host.Turn number ⟨session, event, later⟩ host := by
  refine .elsewhere ?_ foreign ?_
  · rw [Moment.stepsOn, requestless]
    exact .refl host
  · unfold Moment.written?
    split
    · next writer made =>
      refine if_neg fun same => foreign ?_
      rw [show event = .write writer from made, ← same]
      rfl
    · rfl

theorem turn_of_write (hq : session.queues[number]? = some host) {writer : Nat}
    (ha : session.after? (.write writer) = some later) :
    ∃ host', later.queues[number]? = some host' ∧
      host.Turn number ⟨session, .write writer, later⟩ host' := by
  obtain ⟨request, next, reply, served, hw, hs, rfl⟩ := after?_write ha
  have made : (⟨session, .write writer, served.modifyQueue writer fun own =>
      { own with job := some (.waiting (next reply)) }⟩ : Moment).request? = some request := by
    simp only [Moment.request?, hw]
    rfl
  obtain ⟨own, ho, hsteps⟩ := serve?_queue hq hs
  by_cases hk : writer = number
  · subst hk
    refine ⟨_, queue_modify ho _, .request rfl made (job_of_writing? hq hw) hs rfl ?_ rfl ?_⟩
    · rw [Moment.stepsOn, made]
      exact ⟨hsteps.queue, rfl, hsteps.writer, hsteps.schema, hsteps.route⟩
    · simp only [Moment.written?, if_pos, hw, hs]
      rfl
  · refine ⟨own, queue_modify_other ho hk _, .elsewhere ?_ ?_ (if_neg hk)⟩
    · rw [Moment.stepsOn, made]
      exact hsteps
    · exact fun same => hk (Option.some.inj same)

/-- **Every moment of a run** is one of the five things that it can be for a queue. -/
theorem turn_of_after? (hq : session.queues[number]? = some host) {event : SessionEvent}
    (ha : session.after? event = some later) :
    ∃ host', later.queues[number]? = some host' ∧
      host.Turn number ⟨session, event, later⟩ host' := by
  cases event with
  | request request =>
    obtain ⟨reply, hs⟩ := after?_request ha
    obtain ⟨own, ho, hsteps⟩ := serve?_queue hq hs
    exact ⟨own, ho, .elsewhere hsteps nofun rfl⟩
  | start other =>
    obtain ⟨own, job, queue, ho, free, hn, rfl⟩ := after?_start ha
    by_cases hk : other = number
    · subst hk
      rw [hq] at ho
      cases ho
      exact ⟨_, queue_modify hq _, .start rfl free hn rfl⟩
    · exact ⟨host, queue_modify_other hq hk _, turn_idle rfl fun same => hk (Option.some.inj same)⟩
  | write writer => exact turn_of_write hq ha
  | finish other =>
    obtain ⟨outcome, hw, rfl⟩ := after?_finish ha
    by_cases hk : other = number
    · subst hk
      exact ⟨_, queue_modify hq _, .finish rfl (job_of_writing? hq hw) rfl⟩
    · exact ⟨host, queue_modify_other hq hk _, turn_idle rfl fun same => hk (Option.some.inj same)⟩
  | breakDown other =>
    obtain ⟨next, hw, rfl⟩ := after?_breakDown ha
    by_cases hk : other = number
    · subst hk
      exact ⟨_, queue_modify hq _, .breakDown rfl (job_of_writing? hq hw) rfl⟩
    · exact ⟨host, queue_modify_other hq hk _, turn_idle rfl fun same => hk (Option.some.inj same)⟩
  | pass time aging =>
    cases ha
    exact ⟨host, hq, turn_idle rfl nofun⟩
  | inject faults =>
    cases ha
    exact ⟨host, hq, turn_idle rfl nofun⟩

/-- What holds of a queue at first and is kept by every moment holds of it after a run. -/
theorem queue_induction {motive : HostedQueue → List Moment → Prop} {events : List SessionEvent}
    {moments : List Moment} (hosted : session.queues[number]? = some host)
    (run : session.play? events = some moments) (start : motive host [])
    (step : ∀ {own own' : HostedQueue} {earlier : List Moment} {moment : Moment},
      moment.before = session.last earlier → moment.before.after? moment.event = some moment.after →
        moment.before.queues[number]? = some own → own.Turn number moment own' →
          motive own earlier → motive own' (earlier ++ [moment])) :
    ∃ own, (session.last moments).queues[number]? = some own ∧ motive own moments := by
  refine run_induction (motive := fun moments =>
    ∃ own, (session.last moments).queues[number]? = some own ∧ motive own moments) run
      ⟨host, hosted, start⟩ ?_
  rintro earlier moment same ha ⟨own, ho, holds⟩
  rw [← same] at ho
  obtain ⟨own', ho', turn⟩ := turn_of_after? ho ha
  refine ⟨own', ?_, step same ha ho turn holds⟩
  rw [last_append]
  exact ho'

end Session

end EntitySearch

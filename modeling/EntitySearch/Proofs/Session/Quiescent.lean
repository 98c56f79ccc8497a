import EntitySearch.Proofs.Queue.Counting
import EntitySearch.Proofs.Session.Closing

/-!
# A bridge that seems to rest has written everything

What somebody is told of a bridge is looked up in pieces: its queue, its state, the state of the queue,
and how much waits there, while callers, writers and timers go on in between. Still, if it is told that
the bridge is ready and its queue idle, then at the moment at which the state of the queue was looked up
everything was written or reported that any queue of the bridge had accepted. For an idle queue is not
stopped, and while a queue of a bridge is not stopped there is no other one with anything left to do.

* `Session.observed`: what somebody is told, from four moments.
* `Scene.Written`: that nothing is left to write of what was accepted.
* `Scene.Orderly.written`: that it is so while a queue of the bridge is idle.
* `Scene.written_of_isQuiescent`, `Scene.written_of_bridgeStatus`: what the status of a bridge tells.
* `Scene.truthful_and_written`: what the states of queues and bridges tell.
-/

namespace EntitySearch

/-- What somebody is told of a bridge who looks up its queue, its state, the state of the queue and how
much waits there one after the other, each at a moment of its own. -/
def Session.observed (first second third fourth : Session) (number : Nat) : Option BridgeStatus := do
  let host ← first.bridges[number]?
  let bridge ← second.bridge? number
  let queueAt (session : Session) : Option Queue :=
    (host.bridge.queue.bind (session.queues[·]?)).map (·.queue)
  return {
    state := bridge.state
    queue := (queueAt third).map (·.state)
    pending := ((queueAt fourth).map (·.pending.size)).getD 0
    strict := host.config.strict }

theorem Session.observed_self {client : Client} {number : Nat} {host : HostedBridge}
    (hosted : client.session.bridges[number]? = some host) :
    Session.observed client.session client.session client.session client.session number =
      some (client.bridgeStatus host) := by
  unfold observed bridge?
  rw [hosted]
  rfl

/-- Whether everything that the queues of a bridge have accepted is in completed jobs, whose items were
all acknowledged or reported. -/
def Scene.Written (scene : Scene) (number : Nat) : Prop :=
  ∀ queue : Nat, scene.owners[queue]? = some number →
    ∃ host, scene.session.queues[queue]? = some host ∧
      Job.itemsOf (host.queue.completed.map (·.1)) = Moment.acceptedIn scene.moments queue ∧
      ∀ entry ∈ host.queue.completed, Moment.Delivers scene.moments queue host.schema entry.1

/-- Whether a queue was started for a bridge of the scene. -/
def Scene.Owned (scene : Scene) (number queue : Nat) : Prop :=
  (∃ bridge, scene.session.bridge? number = some bridge) ∧ scene.owners[queue]? = some number

namespace Scene

variable {scene later : Scene} {intact : Prop} {grips : Grips} {number queue : Nat}
  {host : HostedQueue}

/-! ## The queues of a bridge -/

theorem Orderly.owned (h : scene.Orderly intact grips) (owned : scene.Owned number queue)
    {event : SceneEvent} (ha : scene.after? event = some later) : later.Owned number queue := by
  obtain ⟨⟨bridge, hosted⟩, own⟩ := owned
  cases event with
  | call other call =>
    obtain ⟨host, -, rfl⟩ := after?_call ha
    exact ⟨⟨bridge, hosted⟩, own⟩
  | learn registry hidden =>
    obtain rfl := Option.some.inj ha
    exact ⟨⟨bridge, hosted⟩, own⟩
  | elsewhere event =>
    obtain ⟨foreign, session, happens, rfl⟩ := after?_elsewhere ha
    have bridges := (Session.quiet_after? happens (h.held.staffed.foreign happens foreign).1).1
    exact ⟨⟨bridge, (congrFun bridges number).trans hosted⟩, own⟩
  | step index =>
    obtain ⟨caller, request, next, reply, session, -, -, served, rfl⟩ := after?_step ha
    refine ⟨Session.present_of_serve? hosted served, ?_⟩
    rwa [List.getElem?_append_left (List.getElem?_eq_some_iff.mp own).1]

theorem owned_of_run {events : List SceneEvent} (h : ∃ grips, scene.Orderly intact grips)
    (owned : scene.Owned number queue) (run : scene.run? events = some later)
    (whole : intact → ∀ event ∈ events, event.isWhole = true) : later.Owned number queue := by
  refine (keeps_of_run
    (fun scene => (∃ grips, scene.Orderly intact grips) ∧ scene.Owned number queue)
    (fun event => intact → event.isWhole = true) ?_ run
    (fun event he hi => whole hi event he) ⟨h, owned⟩).2
  rintro scene event later whole ⟨⟨grips, h⟩, owned⟩ ha
  exact ⟨h.after event whole ha, h.owned owned ha⟩

/-- If a queue of a bridge is idle, everything is written that the queues of the bridge have
accepted. -/
theorem Orderly.written (h : scene.Orderly True grips) (owned : scene.Owned number queue)
    (hosted : scene.session.queues[queue]? = some host) (idle : host.queue.state = .idle) :
    scene.Written number := by
  intro other own
  by_cases same : other = queue
  · subst same
    have sound := (h.held.staffed.kept trivial hosted).sound
    exact ⟨host, hosted, h.delivered hosted (sound.contents_of_idle idle)⟩
  · have running := ((Queue.state_eq_idle_iff host.queue).mp idle).1
    obtain ⟨⟨bridge, present⟩, owned⟩ := owned
    have watched := h.held.watched number bridge present
    obtain ⟨last, hl, finished⟩ :=
      watched.over_of_running trivial owned ⟨host, hosted, running⟩ same own
    have sound := (h.held.staffed.kept trivial hl).sound
    exact ⟨last, hl, h.delivered hl (finished.contents sound)⟩

/-! ## What is told -/

theorem idle_of_isQuiescent {first second third fourth : Session} {status : BridgeStatus}
    (observed : Session.observed first second third fourth number = some status)
    (quiescent : status.isQuiescent = true) :
    ∃ bridge queue host, first.bridge? number = some bridge ∧ bridge.queue = some queue ∧
      third.queues[queue]? = some host ∧ host.queue.state = .idle := by
  obtain ⟨own, ho, observed⟩ := Option.bind_eq_some_iff.mp observed
  obtain ⟨bridge, -, told⟩ := Option.bind_eq_some_iff.mp observed
  cases told
  simp only [BridgeStatus.isQuiescent, Bool.and_eq_true, beq_iff_eq] at quiescent
  obtain ⟨found, hf, idle⟩ := Option.map_eq_some_iff.mp quiescent.2
  obtain ⟨host, hq, rfl⟩ := Option.map_eq_some_iff.mp hf
  obtain ⟨queue, present, hosted⟩ := Option.bind_eq_some_iff.mp hq
  refine ⟨own.bridge, queue, host, ?_, present, hosted, idle⟩
  rw [Session.bridge?, ho]
  rfl

/-- **A bridge that is quiescent has written everything.** Whatever happens while somebody looks up what
it is told, if the status is quiescent then all that the queues of the bridge had accepted at the third
look, that at the state of the queue, was acknowledged or reported by then. -/
theorem written_of_isQuiescent {session : Session} (fresh : session.Fresh)
    {started looking reading : List SceneEvent} {first second third : Scene} {fourth : Session}
    {status : BridgeStatus} (begun : (start session).run? started = some first)
    (looked : first.run? looking = some second) (read : second.run? reading = some third)
    (whole : ∀ event ∈ started ++ looking ++ reading, event.isWhole = true)
    (observed :
      Session.observed first.session second.session third.session fourth number = some status)
    (quiescent : status.isQuiescent = true) : third.Written number := by
  obtain ⟨bridge, queue, host, present, handle, hosted, idle⟩ :=
    idle_of_isQuiescent observed quiescent
  have whole₁ := fun event he => whole event (List.mem_append_left _ (List.mem_append_left _ he))
  have whole₂ := fun event he => whole event (List.mem_append_left _ (List.mem_append_right _ he))
  have whole₃ := fun event he => whole event (List.mem_append_right _ he)
  have h₁ : ∃ grips, first.Orderly True grips :=
    orderly_of_run ⟨_, orderly_start fresh⟩ begun fun _ => whole₁
  have h₂ := orderly_of_run h₁ looked fun _ => whole₂
  obtain ⟨grips, h₃⟩ := orderly_of_run h₂ read fun _ => whole₃
  have owned : first.Owned number queue := by
    obtain ⟨grips, h₁⟩ := h₁
    exact ⟨⟨bridge, present⟩, ((h₁.held.watched number bridge present).current queue handle).1⟩
  have owned := owned_of_run h₁ owned looked fun _ => whole₂
  exact h₃.written (owned_of_run h₂ owned read fun _ => whole₃) hosted idle

/-- If the status of a bridge is looked up at once, it tells of that moment. -/
theorem written_of_bridgeStatus {session : Session} (fresh : session.Fresh)
    {events : List SceneEvent} (run : (start session).run? events = some scene)
    (whole : ∀ event ∈ events, event.isWhole = true) {client : Client} {host : HostedBridge}
    (same : client.session = scene.session) (hosted : scene.session.bridges[number]? = some host)
    (quiescent : (client.bridgeStatus host).isQuiescent = true) : scene.Written number := by
  have observed := Session.observed_self (same ▸ hosted)
  rw [same] at observed
  have still : scene.run? [] = some scene := rfl
  refine written_of_isQuiescent fresh run still still ?_ observed quiescent
  simpa using whole

/-! ## Main results -/

/-- **What the states of queues and bridges tell.** After whatever steps of a queue, its count is the
number of the jobs that were handed to the writer and are not completed, there is one to take away
whenever the writer completes a job, and the queue says that it is idle exactly if it takes items, none
waits, and all these jobs are completed. So, whatever happens while somebody looks up the status of a
bridge, if this is quiescent, all that was accepted until the state of the queue was looked up is written
or reported. -/
theorem truthful_and_written :
    (∀ (settings : QueueSettings) (events : List QueueEvent),
      ((Queue.start settings).run events).Truthful ((Queue.start settings).sent events)) ∧
    ∀ {session : Session}, session.Fresh → ∀ {started looking reading : List SceneEvent}
      {first second third : Scene} {fourth : Session} {number : Nat} {status : BridgeStatus},
      (start session).run? started = some first → first.run? looking = some second →
      second.run? reading = some third →
      (∀ event ∈ started ++ looking ++ reading, event.isWhole = true) →
      Session.observed first.session second.session third.session fourth number = some status →
      status.isQuiescent = true → third.Written number :=
  ⟨Queue.truthful_run, fun fresh => written_of_isQuiescent fresh⟩

/-- A bridge is opened, an item is handed over and flushed, and the writer takes the job. -/
def flushedRun : List SceneEvent :=
  openingRun ++
    [.learn oneType [], .call 0 (.enqueue (.add "A" "1")), .step 1, .step 1, .step 1,
      .call 0 .flush, .step 2, .step 2, .step 2, .elsewhere (.start 0)]

theorem flushedRun_isSome : ((start bareSession).run? flushedRun).isSome = true := rfl

/-- The scene in which the job is written. -/
def flushedScene : Scene := ((start bareSession).run? flushedRun).get flushedRun_isSome

/-- The requests of the writer. -/
def writingRun : List SceneEvent := List.replicate 4 (.elsewhere (.write 0))

theorem writingRun_isSome : (flushedScene.run? writingRun).isSome = true := rfl

/-- The scene in which the writer has the reply. -/
def writtenScene : Scene := (flushedScene.run? writingRun).get writingRun_isSome

theorem finishing_isSome : (writtenScene.run? [.elsewhere (.finish 0)]).isSome = true := rfl

/-- The scene in which the job is completed. -/
def restingScene : Scene := (writtenScene.run? [.elsewhere (.finish 0)]).get finishing_isSome

/-- Somebody looks at the queue while the job is written, and at the state of the queue when it is
completed. A job without items counts as well. -/
theorem truthful_and_written_flushed :
    (((Queue.start {}).run [.perform oneType.resolver .zero .flushAndWait, .startNext]).Truthful
        ((Queue.start {}).sent [.perform oneType.resolver .zero .flushAndWait, .startNext]) ∧
      ((Queue.start {}).run
        [.perform oneType.resolver .zero .flushAndWait, .startNext]).inFlight = 1) ∧
    restingScene.Written 0 ∧ restingScene.owners = [0] ∧
      Moment.acceptedIn restingScene.moments 0 = [.add "A" "1"] := by
  have quiescent : (Session.observed flushedScene.session writtenScene.session
      restingScene.session restingScene.session 0).map (·.isQuiescent) = some true := rfl
  obtain ⟨status, observed, quiescent⟩ := Option.map_eq_some_iff.mp quiescent
  refine ⟨⟨truthful_and_written.1 {} _, rfl⟩, ?_, rfl, rfl⟩
  exact truthful_and_written.2 fresh_bareSession (Option.some_get flushedRun_isSome).symm
    (Option.some_get writingRun_isSome).symm (Option.some_get finishing_isSome).symm
    (List.all_eq_true.mp rfl) observed quiescent

end Scene

end EntitySearch

import EntitySearch.Proofs.Queue.Draining
import EntitySearch.Proofs.Session.Tended
import EntitySearch.Proofs.Session.Turn

/-!
# What an engine has taken

A queue is used in a run in which nobody else writes and nothing goes wrong. Then at every moment the
engine has taken the items of the completed jobs, in their order and on top of what it had at first,
and nothing else, unless the writer is at work on a job that has items.

* `Place.Took`: whether an engine has taken the items of jobs.
* `Place.Filled`: what an engine has taken at every moment; `Place.Filled.after`, `Place.Filled.run`.
-/

namespace EntitySearch

open MemoryEngine (Applied)

namespace Place

variable {place : Place} {session later : Session} {moment : Moment} {host host' : HostedQueue}
  {origin engine engine' : MemoryEngine} {taken : List WorkItem}

/-! ## What the engine has taken -/

/-- Whether an engine has taken the items of completed jobs, on top of what it had taken at first, and
nothing else. -/
def Took (place : Place) (origin : MemoryEngine) (completed : List (Job × Except BridgeError Unit))
    (engine : MemoryEngine) : Prop :=
  Applied ((Job.itemsOf (completed.map (·.1))).filterMap place.resolver.operation?) [] origin engine

/-- What holds of a queue and its engine at every moment of a run in which nobody else writes and
nothing goes wrong: the engine has taken what is completed, on top of which a job is written. -/
structure Filled (place : Place) (origin : MemoryEngine) (session : Session) (host : HostedQueue)
    (engine : MemoryEngine) (taken : List WorkItem) : Prop where
  hosts : place.Hosts session host engine
  sound : host.queue.Sound
  contents : host.queue.contents = taken
  tended : place.Tended True (fun _ => True) (place.Took origin) host engine
  /-- There is nothing to do for a job without items. -/
  idle : ∀ job, host.queue.writing = some job → job.items = [] →
    host.job = some (.waiting (.done (.ok ())))
  rested : host.queue.Rests →
    place.Took origin host.queue.completed engine ∧ engine.Orderly ∧ engine.faults.Harmless

theorem steps_eq (h : place.Hosts moment.before host engine) :
    place.steps moment = moment.stepsOn place.number host := by
  unfold steps Moment.stepsOn
  cases moment.request? with
  | none => rfl
  | some request =>
    cases request with
    | queue other request =>
      cases request with
      | perform action =>
        dsimp only [Session.stepsOf]
        rw [h.schema, h.resolver]
      | _ => rfl
    | _ => rfl

theorem accepted_eq (h : place.Hosts moment.before host engine) :
    moment.accepted place.number = host.queue.accepted (place.steps moment) := by
  rw [steps_eq h, Moment.accepted_of_hosted h.queue]

namespace Filled

theorem start {settings : QueueSettings}
    (hosts : place.Hosts session (Session.hostQueue settings place.schema .engine) engine)
    (orderly : engine.Orderly) (harmless : engine.faults.Harmless) :
    place.Filled engine session (Session.hostQueue settings place.schema .engine) engine [] where
  hosts := hosts
  sound := Queue.sound_start settings
  contents := rfl
  tended := ⟨fun _ => rfl, nofun⟩
  idle := nofun
  rested _ := ⟨.nil engine, orderly, harmless⟩

theorem idle_turn (h : place.Filled origin session host engine taken)
    (turn : place.Turn moment host engine host' engine') :
    ∀ job, host'.queue.writing = some job → job.items = [] →
      host'.job = some (.waiting (.done (.ok ()))) := by
  intro job hw empty
  cases turn with
  | elsewhere steps =>
    rw [(writing_of_run steps.queue).1] at hw
    rw [steps.job]
    exact h.idle job hw empty
  | request event before after queue =>
    rw [(writing_of_run queue).1] at hw
    rw [h.idle job hw empty] at before
    cases before
  | start event next after =>
    rw [(Queue.writing_startNext next).2.1] at hw
    cases hw
    rw [after, empty]
    rfl
  | finish event before queue =>
    rw [queue, Queue.writing_finish] at hw
    cases hw
  | breakDown event before queue =>
    rw [queue] at hw
    cases hw

/-- What the engine has taken when the writer has nothing to write. -/
theorem rested_turn (h : place.Filled origin session host engine taken)
    (turn : place.Turn moment host engine host' engine')
    (calm : moment.event ≠ .write place.number → moment.Calm True) (rests : host'.queue.Rests) :
    place.Took origin host'.queue.completed engine' ∧ engine'.Orderly ∧ engine'.faults.Harmless := by
  cases turn with
  | elsewhere steps foreign _ quiet =>
    obtain ⟨hw, hc⟩ := writing_of_run steps.queue
    obtain ⟨took, orderly, harmless⟩ := h.rested fun job hj => rests job (hw.trans hj)
    have later := quiet True (calm foreign)
    rw [hc]
    exact ⟨took.disturbed (.refl origin) later.undisturbed, later.undisturbed.orderly orderly,
      later.harmless trivial harmless⟩
  | request event before after queue =>
    obtain ⟨hw, -⟩ := writing_of_run queue
    cases hj : host.queue.writing with
    | none =>
      rw [h.tended.idle hj] at before
      cases before
    | some job =>
      rw [h.idle job hj (rests job (hw.trans hj))] at before
      cases before
  | start event next after same =>
    obtain ⟨hw, -, hc⟩ := Queue.writing_startNext next
    rw [same, hc]
    refine h.rested fun job hj => ?_
    rw [hw] at hj
    cases hj
  | finish event before queue after same =>
    cases hw : host.queue.writing with
    | none =>
      rw [h.tended.idle hw] at before
      cases before
    | some job =>
      obtain ⟨start, took, written⟩ := h.tended.finish hw trivial before
      obtain ⟨refused, applied, -, none⟩ := written.applied
      rw [none trivial, BulkPlan.operations_ofItems] at applied
      rw [same, queue, Queue.completed_finish hw]
      refine ⟨?_, written.orderly, written.harmless trivial⟩
      have held := took.append applied
      simpa [Took, Job.itemsOf] using held
  | breakDown event before =>
    exact absurd before (h.tended.not_abandon trivial fun _ => trivial)

/-- **What an engine has taken** at a moment, and what it has taken at the next one. -/
theorem after (h : place.Filled origin session host engine taken) {event : SessionEvent}
    (ha : session.after? event = some later)
    (calm : event ≠ .write place.number → (⟨session, event, later⟩ : Moment).Calm True) :
    ∃ host' engine', place.Filled origin later host' engine'
        (taken ++ (⟨session, event, later⟩ : Moment).accepted place.number) ∧
      place.Turn ⟨session, event, later⟩ host engine host' engine' := by
  obtain ⟨host', engine', hosts, turn⟩ := h.hosts.after ha
  obtain ⟨own, hosted, passes⟩ := Session.turn_of_after? h.hosts.queue ha
  obtain rfl : own = host' := Option.some.inj (hosted.symm.trans hosts.queue)
  have whole : event ≠ .breakDown place.number := by
    rintro rfl
    obtain ⟨next, writing, -⟩ := Session.after?_breakDown ha
    have broken := Session.job_of_writing? h.hosts.queue writing
    exact h.tended.not_abandon trivial (fun _ => trivial) broken
  obtain ⟨sound, contents⟩ := passes.contents whole h.sound
  refine ⟨own, engine', ⟨hosts, sound, ?_, h.tended.turn turn (fun _ _ _ => calm) ?_,
    h.idle_turn turn, h.rested_turn turn calm⟩, turn⟩
  · rw [contents, h.contents, Moment.accepted_of_hosted h.hosts.queue]
  · intro job next _
    have free := (Queue.writing_startNext next).1
    obtain ⟨took, orderly, harmless⟩ := h.rested fun job hj => by
      rw [free] at hj
      cases hj
    exact ⟨took, orderly, fun _ => harmless⟩

/-- What an engine has taken after a run. -/
theorem run {events : List SessionEvent} :
    ∀ {moments : List Moment} {session : Session} {host : HostedQueue} {engine : MemoryEngine}
      {taken : List WorkItem}, place.Filled origin session host engine taken →
        session.play? events = some moments →
          (∀ moment ∈ moments, moment.event ≠ .write place.number → moment.Calm True) →
            ∃ host' engine', place.Filled origin (session.last moments) host' engine'
              (taken ++ Moment.acceptedIn moments place.number) := by
  induction events with
  | nil =>
    intro moments session host engine taken h run calm
    cases run
    rw [Moment.acceptedIn, List.flatMap_nil, List.append_nil]
    exact ⟨host, engine, h⟩
  | cons event rest ih =>
    intro moments session host engine taken h run calm
    obtain ⟨after, tail, ha, ht, rfl⟩ := Session.play?_cons run
    obtain ⟨host', engine', h', -⟩ := h.after ha (calm _ List.mem_cons_self)
    rw [Moment.acceptedIn, List.flatMap_cons, ← List.append_assoc]
    exact ih h' ht fun moment hm => calm moment (List.mem_cons_of_mem _ hm)

end Filled

end Place

end EntitySearch

import EntitySearch.Proofs.Session.Calls
import EntitySearch.Proofs.Session.Tended

/-!
# Reading after writing

A strict queue whose engine is held in memory makes the items of a job visible before it says that
the job ended well. Whoever hands over the item that fills a batch, flushes the queue or stops it
waits for the job that is cut; if the call succeeds, then at the moment at which the job was
completed searches saw all of it, whatever had been left behind by earlier jobs.

* `MemoryEngine.Shows`: whether searches see items.
* `Place.Kept`: what holds of a strict queue at every moment of a run.
* `Place.Alone`: that nobody else writes while a job is written.
* `Place.shows_of_completed`: jobs that have ended well were visible when they were completed.
* `Place.shows_of_returned`: the main result.
-/

namespace EntitySearch

/-- Whether searches see items: no write to the index of one of them waits for a refresh, and the
document of an identifier in an index is the one that the last of them with this identifier asks for
there. -/
structure MemoryEngine.Shows (engine : MemoryEngine) (resolver : Resolver) (items : List WorkItem) :
    Prop where
  refreshed : ∀ item ∈ items, ∀ descriptor,
    resolver.descriptor item.entityType = .ok descriptor →
      (engine.index descriptor.indexName).unrefreshed = []
  /-- An addition leaves a document of its fields, to which that of the identifier is added unless it
  is one of them. -/
  added : ∀ index id item, resolver.lastIn? items index id = some item → item.kind = .add →
    ∃ descriptor, resolver.descriptor item.entityType = .ok descriptor ∧
      engine.document? index id = some {
        id
        entityType := descriptor.entityType
        source :=
          if item.fields.contains descriptor.idField then item.fields
          else item.fields.insert descriptor.idField (BulkPlan.idValue descriptor id) }
  /-- A deletion leaves none. -/
  deleted : ∀ index id item, resolver.lastIn? items index id = some item → item.kind = .delete →
    engine.document? index id = none

namespace BulkPlan.Written

variable {assured : Prop} {writer : Writer} {before after : MemoryEngine}

/-- A job that has ended well leaves behind what its last operations write. -/
theorem document?_eq {plan : BulkPlan} (h : plan.Written assured writer before (.ok ()) after)
    (strict : writer.strict = true) {index id : String} {operation : Operation}
    (last : Operation.lastAt? plan.operations index id = some operation) :
    after.document? index id = operation.document? := by
  obtain ⟨refused, happlied, hall, -⟩ := h.applied
  obtain ⟨hm, hi, -⟩ := Operation.lastAt?_eq_some last
  have visible := h.visible rfl strict operation hm
  rw [hi] at visible
  have taken : (plan.operations.filter fun operation =>
      !refused.contains operation.id && operation.index = index) =
        plan.operations.filter fun operation => operation.index = index := by
    refine List.filter_congr fun operation ho => ?_
    simp [hall rfl operation ho]
  rw [MemoryEngine.document?_eq, ← MemoryEngine.settled_of_nil visible, happlied.settled index, taken,
    MemoryIndex.lookup_foldl]
  rw [Operation.lastAt?] at last
  rw [last]

/-- Searches see all items of a job of a strict queue that has ended well. -/
theorem shows {resolver : Resolver} {items : List WorkItem}
    (h : (ofItems resolver items).Written assured writer before (.ok ()) after)
    (strict : writer.strict = true) : after.Shows resolver items := by
  refine ⟨fun item hi descriptor known => ?_, fun index id item last add => ?_,
    fun index id item last delete => ?_⟩
  · rw [← (Resolver.index_operation descriptor item).1]
    refine h.visible rfl strict _ ?_
    rw [operations_ofItems]
    exact List.mem_filterMap.mpr ⟨item, hi, Resolver.operation?_of_descriptor known⟩
  · obtain ⟨-, -, rfl⟩ := Resolver.lastIn?_eq_some last
    obtain ⟨descriptor, known, written⟩ := Resolver.lastAt?_of_lastIn? last
    refine ⟨descriptor, known, (h.document?_eq strict written).trans ?_⟩
    rw [operation, add]
    rfl
  · obtain ⟨descriptor, -, written⟩ := Resolver.lastAt?_of_lastIn? last
    refine (h.document?_eq strict written).trans ?_
    rw [operation, delete]
    rfl

end BulkPlan.Written

namespace Place

variable {place : Place} {job : Job} {session later : Session} {moment : Moment}
  {host host' : HostedQueue} {engine engine' : MemoryEngine}

/-! ## Jobs by number -/

/-- Jobs that are new at a moment have higher numbers than all jobs before. -/
theorem Turn.jobs (h : place.Turn moment host engine host' engine') :
    host.queue.nextJob ≤ host'.queue.nextJob ∧ ∀ other ∈ host'.queue.jobs,
      other ∈ host.queue.jobs ∨
        host.queue.nextJob ≤ other.number ∧ other.number < host'.queue.nextJob := by
  rcases h.queue_cases with hq | ⟨job, hq⟩ | ⟨outcome, hq⟩ | hq
  · obtain ⟨step, wait, cut, hc, hr⟩ := run_steps place moment host.queue
    rw [hq, hr]
    refine ⟨by rw [hc.nextJob]; omega, fun other ho => ?_⟩
    rw [hc.jobs] at ho
    rcases List.mem_append.mp ho with ho | ho
    · exact .inl ho
    · have hn := List.mem_map_of_mem (f := Job.number) ho
      rw [hc.numbers, List.mem_range'_1] at hn
      rw [hc.nextJob]
      exact .inr hn
  · rw [Queue.jobs_startNext hq, (Queue.startNext_frame hq).2.2]
    exact ⟨Nat.le_refl _, fun other => .inl⟩
  · rw [hq, Queue.jobs_finish, (Queue.finish_frame host.queue outcome).2.2]
    exact ⟨Nat.le_refl _, fun other => .inl⟩
  · rw [hq]
    refine ⟨Nat.le_refl _, fun other ho => .inl ?_⟩
    simp only [Queue.jobs, Queue.breakDown, Option.toList_none, List.append_nil] at ho
    exact List.mem_append_left _ (List.mem_append_left _ ho)

/-! ## What holds at every moment -/

/-- What holds of a strict queue at every moment of a run in which nobody else writes while a given
job is written. -/
structure Kept (place : Place) (job : Job) (session : Session) (host : HostedQueue)
    (engine : MemoryEngine) : Prop where
  hosts : place.Hosts session host engine
  postpones : engine.postpones = true
  strict : host.queue.strict = true
  tended : place.Tended False (· = job) (fun _ _ => True) host engine
  numbered : ∀ other ∈ host.queue.jobs, other.number < host.queue.nextJob
  known : host.queue.writerGone = false →
    host.queue.Sound ∧ ∀ item ∈ host.queue.contents, place.resolver.Knows item
  present : host.queue.writing ≠ none → host.queue.writerGone = false

namespace Kept

theorem known_turn (h : host.queue.writerGone = false →
      host.queue.Sound ∧ ∀ item ∈ host.queue.contents, place.resolver.Knows item)
    (turn : place.Turn moment host engine host' engine') (gone : host'.queue.writerGone = false) :
    host'.queue.Sound ∧ ∀ item ∈ host'.queue.contents, place.resolver.Knows item := by
  rcases turn.queue_cases with hq | ⟨job, hq⟩ | ⟨outcome, hq⟩ | hq
  · obtain ⟨step, wait, cut, hc, hr⟩ := run_steps place moment host.queue
    rw [hq, hr] at gone ⊢
    obtain ⟨hs, hk⟩ := h (hc.writer ▸ gone)
    refine ⟨hc.sound hs, fun item hi => ?_⟩
    rw [hc.contents hs] at hi
    exact (List.mem_append.mp hi).elim (hk item) knows_of_accepted
  · obtain ⟨hs, hk⟩ := h ((Queue.startNext_frame hq).2.1 ▸ gone)
    rw [Queue.contents_startNext hq]
    exact ⟨hs.startNext hq, hk⟩
  · rw [hq, (Queue.finish_frame host.queue outcome).2.1] at gone
    obtain ⟨hs, hk⟩ := h gone
    rw [hq, Queue.contents_finish]
    exact ⟨hs.finish outcome, hk⟩
  · rw [hq] at gone
    cases gone

theorem strict_turn (h : host.queue.strict = true)
    (turn : place.Turn moment host engine host' engine') : host'.queue.strict = true := by
  rcases turn.queue_cases with hq | ⟨job, hq⟩ | ⟨outcome, hq⟩ | hq
  · obtain ⟨step, wait, cut, hc, hr⟩ := run_steps place moment host.queue
    rw [hq, hr, hc.strict, h]
  · rw [(Queue.startNext_frame hq).1, h]
  · rw [hq, (Queue.finish_frame host.queue outcome).1, h]
  · rw [hq]
    exact h

theorem present_turn (h : host.queue.writing ≠ none → host.queue.writerGone = false)
    (turn : place.Turn moment host engine host' engine') :
    host'.queue.writing ≠ none → host'.queue.writerGone = false := by
  rcases turn.queue_cases with hq | ⟨job, hq⟩ | ⟨outcome, hq⟩ | hq
  · obtain ⟨step, wait, cut, hc, hr⟩ := run_steps place moment host.queue
    rw [hq, hr, hc.writing, hc.writer]
    exact h
  · rw [(Queue.startNext_frame hq).2.1]
    exact fun _ => Queue.present_of_startNext hq
  · rw [hq, Queue.writing_finish]
    exact fun hn => absurd rfl hn
  · rw [hq]
    exact fun hn => absurd rfl hn

theorem postpones_turn (h : engine.postpones = true)
    (turn : place.Turn moment host engine host' engine') : engine'.postpones = true := by
  cases turn with
  | elsewhere steps foreign postpones => exact postpones.trans h
  | request event before after queue serves => exact (postpones_of_serves serves).trans h
  | start event next after same => exact same ▸ h
  | finish event before queue after same => exact same ▸ h
  | breakDown event before queue after same => exact same ▸ h

theorem after (h : place.Kept job session host engine) {event : SessionEvent}
    (ha : session.after? event = some later)
    (alone : session.job? place.number = some job → event ≠ .write place.number →
      (⟨session, event, later⟩ : Moment).Calm False) :
    ∃ host' engine', place.Kept job later host' engine' ∧
      place.Turn ⟨session, event, later⟩ host engine host' engine' := by
  obtain ⟨host', engine', hosts, turn⟩ := h.hosts.after ha
  refine ⟨host', engine', ⟨hosts, postpones_turn h.postpones turn, strict_turn h.strict turn,
    h.tended.turn turn ?_ ?_, fun other ho => ?_, known_turn h.known turn,
    present_turn h.present turn⟩, turn⟩
  · rintro other hw rfl
    refine alone ?_
    rw [Session.job?, h.hosts.queue]
    exact hw
  · exact fun _ _ _ => ⟨trivial, .inl h.postpones, False.elim⟩
  · obtain ⟨hn, hj⟩ := turn.jobs
    rcases hj other ho with ho | ho
    · have := h.numbered other ho
      omega
    · exact ho.2

theorem completed_eq (h : place.Kept job session host engine) :
    session.completed place.number = host.queue.completed := by
  rw [Session.completed, h.hosts.queue]
  rfl

theorem knows_of_writing (h : place.Kept job session host engine)
    (writing : host.queue.writing = some job) : ∀ item ∈ job.items, place.resolver.Knows item := by
  intro item hi
  have gone := h.present (by rw [writing]; nofun)
  refine (h.known gone).2 item ?_
  rw [Queue.contents, writing]
  refine List.mem_append_left _ (List.mem_append_left _ (List.mem_append_right _ ?_))
  exact List.mem_flatMap.mpr ⟨job, List.mem_singleton_self job, hi⟩

end Kept

/-- Whether searches of a session see all items of a job. -/
def Shows (place : Place) (session : Session) (job : Job) : Prop :=
  (∀ item ∈ job.items, place.resolver.Knows item) ∧
    ∃ engine, session.engine = some engine ∧ engine.Shows place.resolver job.items

theorem Kept.completes (h : place.Kept job session host engine)
    (strict : place.writer.strict = true) {event : SessionEvent}
    (h' : place.Kept job later host' engine')
    (turn : place.Turn ⟨session, event, later⟩ host engine host' engine')
    (new : (job, .ok ()) ∈ later.completed place.number) :
    (job, .ok ()) ∈ session.completed place.number ∨
      (⟨session, event, later⟩ : Moment).Completes place.number job (.ok ()) ∧
        place.Shows later job := by
  rw [h'.completed_eq] at new
  rw [Moment.Completes, h.completed_eq, h'.completed_eq]
  have same : host'.queue.completed = host.queue.completed →
      (job, .ok ()) ∈ host.queue.completed := fun hc => hc ▸ new
  cases turn with
  | elsewhere steps => exact .inl (same (writing_of_run steps.queue).2)
  | request event before after queue => exact .inl (same (writing_of_run queue).2)
  | start event next => exact .inl (same (Queue.writing_startNext next).2.2)
  | breakDown event before queue =>
    refine .inl (same ?_)
    rw [queue]
    rfl
  | finish event before queue after engineSame =>
    cases hw : host.queue.writing with
    | none =>
      refine .inl (same ?_)
      rw [queue, Queue.finish, hw]
    | some own =>
      rw [queue, Queue.completed_finish hw] at new ⊢
      rcases List.mem_append.mp new with new | new
      · exact .inl new
      · cases List.mem_singleton.mp new
        obtain ⟨start, -, written⟩ := h.tended.finish hw rfl before
        refine .inr ⟨⟨event, rfl⟩, h.knows_of_writing hw, engine', ?_, ?_⟩
        · exact h'.hosts.engine
        · rw [engineSame]
          exact written.shows strict

/-! ## Runs -/

/-- Whether nobody but the writer of a queue writes while it is at work on a job. -/
def Alone (place : Place) (job : Job) (moments : List Moment) : Prop :=
  ∀ moment ∈ moments, moment.before.job? place.number = some job →
    moment.event ≠ .write place.number →
      ∀ request, moment.request? = some request → request.writes = false

namespace Alone

variable {event : SessionEvent} {earlier rest : List Moment}

theorem calm (h : place.Alone job (⟨session, event, later⟩ :: rest))
    (writing : session.job? place.number = some job) (foreign : event ≠ .write place.number) :
    (⟨session, event, later⟩ : Moment).Calm False :=
  ⟨h _ List.mem_cons_self writing foreign, fun _ _ => False.elim⟩

theorem tail (h : place.Alone job (moment :: rest)) : place.Alone job rest :=
  fun other ho => h other (List.mem_cons_of_mem _ ho)

theorem after (h : place.Alone job (earlier ++ rest)) : place.Alone job rest :=
  fun other ho => h other (List.mem_append_right _ ho)

end Alone

theorem kept_of_play {events : List SessionEvent} :
    ∀ {moments : List Moment} {session : Session} {host : HostedQueue} {engine : MemoryEngine},
      place.Kept job session host engine → session.play? events = some moments →
        place.Alone job moments → ∀ moment ∈ moments,
          ∃ host engine host' engine', place.Kept job moment.before host engine ∧
            place.Kept job moment.after host' engine' ∧
            place.Turn moment host engine host' engine' := by
  induction events with
  | nil =>
    intro moments session host engine h run alone moment hm
    cases run
    cases hm
  | cons event rest ih =>
    intro moments session host engine h run alone moment hm
    obtain ⟨after, tail, ha, ht, rfl⟩ := Session.play?_cons run
    obtain ⟨host', engine', h', turn⟩ := h.after ha alone.calm
    rcases List.mem_cons.mp hm with rfl | hm
    · exact ⟨host, engine, host', engine', h, h', turn⟩
    · exact ih h' ht alone.tail moment hm

/-- **Jobs that have ended well** were visible at the moment at which they were completed. -/
theorem shows_of_completed (strict : place.writer.strict = true) {events : List SessionEvent} :
    ∀ {moments : List Moment} {session : Session} {host : HostedQueue} {engine : MemoryEngine},
      place.Kept job session host engine → session.play? events = some moments →
        place.Alone job moments → ∀ last ∈ moments,
          (job, .ok ()) ∈ last.before.completed place.number →
            (job, .ok ()) ∈ session.completed place.number ∨
              ∃ moment ∈ moments, moment.Completes place.number job (.ok ()) ∧
                place.Shows moment.after job := by
  induction events with
  | nil =>
    intro moments session host engine h run alone last hl
    cases run
    cases hl
  | cons event rest ih =>
    intro moments session host engine h run alone last hl done
    obtain ⟨after, tail, ha, ht, rfl⟩ := Session.play?_cons run
    obtain ⟨host', engine', h', turn⟩ := h.after ha alone.calm
    rcases List.mem_cons.mp hl with rfl | hl
    · exact .inl done
    rcases ih h' ht alone.tail last hl done with
      done | ⟨moment, hm, shown⟩
    · rcases h.completes strict h' turn done with done | shown
      · exact .inl done
      · exact .inr ⟨_, List.mem_cons_self, shown⟩
    · exact .inr ⟨moment, List.mem_cons_of_mem _ hm, shown⟩

/-- A job keeps its number: none of the other jobs ever has it. -/
theorem eq_of_number {events : List SessionEvent} :
    ∀ {moments : List Moment} {session : Session} {host : HostedQueue} {engine : MemoryEngine}
      {cut : Job}, place.Kept job session host engine → session.play? events = some moments →
        place.Alone job moments → cut.number < host.queue.nextJob →
        (∀ other ∈ host.queue.jobs, other.number = cut.number → other = cut) →
        ∀ last ∈ moments, ∀ outcome other, (other, outcome) ∈ last.before.completed place.number →
          other.number = cut.number → other = cut := by
  induction events with
  | nil =>
    intro moments session host engine cut h run alone hn hu last hl
    cases run
    cases hl
  | cons event rest ih =>
    intro moments session host engine cut h run alone hn hu last hl outcome other done
    obtain ⟨after, tail, ha, ht, rfl⟩ := Session.play?_cons run
    obtain ⟨host', engine', h', turn⟩ := h.after ha alone.calm
    rcases List.mem_cons.mp hl with rfl | hl
    · rw [h.completed_eq] at done
      exact hu other (List.mem_append_left _ (List.mem_append_left _
        (List.mem_map_of_mem (f := Prod.fst) done)))
    obtain ⟨hle, hj⟩ := turn.jobs
    refine ih h' ht alone.tail (by omega) ?_ last hl
      outcome other done
    intro other ho same
    rcases hj other ho with ho | ⟨ho, -⟩
    · exact hu other ho same
    · omega

end Place

/-! ## Main result -/

theorem Queue.mem_of_outcome? {queue : Queue} {number : Nat}
    (h : queue.outcome? number = some (.ok ())) :
    ∃ job, (job, .ok ()) ∈ queue.completed ∧ job.number = number := by
  unfold outcome? at h
  split at h
  · next job outcome hf =>
    cases h
    exact ⟨job, List.mem_of_find?_eq_some hf, by simpa using List.find?_some hf⟩
  · split at h <;> cases h

namespace Place

variable {place : Place} {job : Job} {session : Session} {moments : List Moment}
  {host host' : HostedQueue} {engine engine' : MemoryEngine}

/-- The step of a call on a strict queue that cuts a job. -/
theorem cut_of_succeeds {call : QueueCall} {first : Moment} {waits : List Moment}
    {reply : Except BridgeError (Option Nat)} (h : call.Succeeds place.number first waits reply)
    (cut : first.Cuts place.number job) (kept : place.Kept job first.before host engine)
    (kept' : place.Kept job first.after host' engine')
    (turn : place.Turn first host engine host' engine') :
    reply = .ok (some job.number) ∧ job.number < host'.queue.nextJob ∧
      ∀ other ∈ host'.queue.jobs, other.number = job.number → other = job := by
  have made : first.request? = some (.queue place.number (.perform call.action)) := by
    rw [Moment.request?, h.event]
  have one : place.steps first = [.perform place.resolver first.before.batchClock call.action] := by
    rw [steps, made]
    exact if_pos rfl
  have queue := turn.queue_of_request h.event
  rw [one] at queue
  change host'.queue =
    (host.queue.perform place.resolver first.before.batchClock call.action).queue at queue
  obtain ⟨cuts, hc⟩ :=
    host.queue.perform_cuts place.resolver first.before.batchClock call.action
  have only : cuts = [job] := by
    rw [Moment.Cuts, Session.waiting, Session.waiting, kept.hosts.queue, kept'.hosts.queue] at cut
    have hw := hc.waiting
    rw [← queue] at hw
    exact List.append_cancel_left (hw.symm.trans cut)
  subst only
  have number : job.number = host.queue.nextJob := by simpa using hc.numbers
  refine ⟨?_, ?_, fun other ho same => ?_⟩
  · have result := hc.result job (List.mem_singleton_self job)
    rw [kept.strict, call.waits_action, if_pos rfl] at result
    have answer : (first.before.perform place.number call.action).1 = reply :=
      congrArg Prod.fst (Option.some.inj h.served)
    rw [← answer, Session.perform, kept.hosts.queue]
    dsimp only
    rw [kept.hosts.schema, kept.hosts.resolver, result]
  · rw [queue, hc.nextJob, number, List.length_singleton]
    omega
  · rw [queue, hc.jobs] at ho
    rcases List.mem_append.mp ho with ho | ho
    · have := kept.numbered other ho
      omega
    · exact List.mem_singleton.mp ho

/-- A successful call of a strict queue that has cut a job has waited until the job ended well. -/
theorem completed_of_succeeds {call : QueueCall} {first : Moment} {waits later : List Moment}
    {reply : Except BridgeError (Option Nat)} {events : List SessionEvent}
    (h : call.Succeeds place.number first waits reply) (cut : first.Cuts place.number job)
    (kept : place.Kept job first.before host engine)
    (kept' : place.Kept job first.after host' engine')
    (turn : place.Turn first host engine host' engine')
    (run : first.after.play? events = some later) (alone : place.Alone job later)
    (course : waits.Sublist later) :
    ∃ last ∈ later, (job, .ok ()) ∈ last.before.completed place.number := by
  obtain ⟨awaited, hn, unique⟩ := cut_of_succeeds h cut kept kept' turn
  obtain ⟨wait, hw, answered⟩ := h.awaited job.number awaited
  have hl := course.subset hw
  obtain ⟨own, _, _, _, ownKept, -, -⟩ := kept_of_play kept' run alone wait hl
  have outcome : own.queue.outcome? job.number = some (.ok ()) := by
    change wait.before.serveQueue? place.number (.outcome job.number) = _ at answered
    simp only [Session.serveQueue?, ownKept.hosts.queue] at answered
    obtain ⟨outcome, ho, he⟩ := Option.map_eq_some_iff.mp answered
    exact ho.trans (congrArg some (congrArg Prod.fst he))
  obtain ⟨other, hc, same⟩ := Queue.mem_of_outcome? outcome
  rw [← ownKept.completed_eq] at hc
  cases eq_of_number kept' run alone hn unique wait hl _ other hc same
  exact ⟨wait, hl, hc⟩

/-- A queue of a session, as it is when the session hosts it. -/
def ofHost (session : Session) (number : Nat) (host : HostedQueue) : Place :=
  ⟨number, host.writer, host.schema, session.resolver host.schema⟩

theorem kept_start {settings : QueueSettings} {schema : SchemaSource} {number : Nat}
    (hosted : session.queues[number]? = some (Session.hostQueue settings schema .engine))
    (strict : settings.strict = true) (memory : session.engine = some engine)
    (postpones : engine.postpones = true) (unscripted : session.outcomes = []) :
    (ofHost session number (Session.hostQueue settings schema .engine)).Kept job session
      (Session.hostQueue settings schema .engine) engine where
  hosts := ⟨hosted, memory, unscripted, rfl, rfl, rfl, rfl⟩
  postpones := postpones
  strict := strict
  tended := ⟨fun _ => rfl, nofun⟩
  numbered := nofun
  known _ := ⟨Queue.sound_start settings, nofun⟩
  present hn := absurd rfl hn

/-- **Reading after writing.** In a session whose engine is held in memory and makes writes wait for
a refresh, a strict queue is used from its start on. Whatever happens and whatever goes wrong, if a
call that has cut a job succeeds, and nobody but the writer of the queue writes while it is at work on
the job, then searches see all of the job at the moment at which the writer completes it. -/
theorem shows_of_returned {settings : QueueSettings} {schema : SchemaSource} {number : Nat}
    (hosted : session.queues[number]? = some (Session.hostQueue settings schema .engine))
    (strict : settings.strict = true) (memory : session.engine = some engine)
    (postpones : engine.postpones = true) (unscripted : session.outcomes = [])
    {events : List SessionEvent} (run : session.play? events = some moments)
    (alone : (ofHost session number (Session.hostQueue settings schema .engine)).Alone job moments)
    {call : QueueCall} {own : List Moment} (course : own.Sublist moments)
    (returned : (call.procedure.expand (System.queueing number)).CarriedOut own (.ok ()))
    (cut : ∃ moment ∈ own, moment.Cuts number job) :
    ∃ moment ∈ moments, moment.Completes number job (.ok ()) ∧
      (ofHost session number (Session.hostQueue settings schema .engine)).Shows moment.after job := by
  let place := ofHost session number (Session.hostQueue settings schema .engine)
  have start := @kept_start job session engine _ _ _ hosted strict memory postpones unscripted
  obtain ⟨first, waits, reply, rfl, succeeds⟩ := QueueCall.succeeds_of_carriedOut call returned
  have atFirst : first.Cuts number job := by
    obtain ⟨moment, hm, hc⟩ := cut
    rcases List.mem_cons.mp hm with rfl | hm
    · exact hc
    · -- a wait cuts nothing
      rw [Moment.Cuts, succeeds.idle moment hm] at hc
      cases List.append_right_eq_self.mp hc.symm
  obtain ⟨begin, rest, rfl, hfirst, hwaits⟩ := List.cons_sublist_iff.mp course
  obtain ⟨earlier, between, rfl⟩ := List.append_of_mem hfirst
  rw [List.append_assoc, List.cons_append] at run alone ⊢
  obtain ⟨-, events', run'⟩ := Session.play?_split run
  have inRun : ∀ moment ∈ first :: (between ++ rest),
      moment ∈ earlier ++ first :: (between ++ rest) := fun _ => List.mem_append_right earlier
  obtain ⟨host, _, host', _, kept, kept', turn⟩ :=
    kept_of_play start run alone first (inRun first List.mem_cons_self)
  obtain ⟨last, hl, completed⟩ := completed_of_succeeds succeeds atFirst kept kept' turn run'
    alone.after.tail (hwaits.trans (List.sublist_append_right between rest))
  rcases shows_of_completed strict start run alone last (inRun last (List.mem_cons_of_mem _ hl))
    completed with before | shown
  · rw [start.completed_eq] at before
    cases before
  · exact shown

/-! ## A run with leftovers -/

/-- Two entity types with an index each. -/
def twoIndices : Registry :=
  .registerAll {} [⟨"A", "a", "id", .string, []⟩, ⟨"B", "b", "id", .string, []⟩]

/-- A session with a strict queue. A document of an earlier job waits for a refresh of the engine. -/
def leftoverSession : Session where
  engine := some { postpones := true, indices := [("a", { unrefreshed := [.put "a" "A" "1" []] })] }
  queues := [Session.hostQueue { strict := true } (.own twoIndices) .engine]

/-- A document that is written and removed again, and one in another index. -/
def leftoverJob : Job := ⟨0, [.add "A" "2", .add "B" "2", .delete "A" "2"], true⟩

/-- A caller hands over the items of the job, flushes the queue, and waits for the job. -/
def leftoverRun : List SessionEvent :=
  leftoverJob.items.map (fun item => .request (.queue 0 (.perform (.enqueue item)))) ++
    [.request (.queue 0 (.perform .flush)), .start 0] ++ List.replicate 8 (.write 0) ++
    [.finish 0, .request (.queue 0 (.outcome 0))]

theorem leftoverRun_isSome : (leftoverSession.play? leftoverRun).isSome = true := rfl

/-- The moments of the run. -/
def leftoverMoments : List Moment := (leftoverSession.play? leftoverRun).get leftoverRun_isSome

/-- Whether the caller flushes the queue or waits for the job. -/
def isOfFlush (moment : Moment) : Bool :=
  match moment.event with
  | .request (.queue _ (.perform .flush)) | .request (.queue _ (.outcome _)) => true
  | _ => false

/-- After the run searches see all of the job: the document in the other index is there, and the one
that was removed again is not. -/
theorem shows_of_returned_leftovers :
    ∃ moment ∈ leftoverMoments, moment.Completes 0 leftoverJob (.ok ()) ∧
      (ofHost leftoverSession 0
        (Session.hostQueue { strict := true } (.own twoIndices) .engine)).Shows moment.after
          leftoverJob ∧
      ∃ engine, moment.after.engine = some engine ∧
        engine.document? "b" "2" = some ⟨"2", "B", [("id", .string "2")]⟩ ∧
        engine.document? "a" "2" = none := by
  have run : leftoverSession.play? leftoverRun = some leftoverMoments := (Option.some_get _).symm
  have alone : (ofHost leftoverSession 0 (Session.hostQueue { strict := true } (.own twoIndices)
      .engine)).Alone leftoverJob leftoverMoments := fun moment hm _ foreign =>
    (Session.calm_of_play run (by decide) moment hm foreign).quiet
  have cut : ∃ moment ∈ leftoverMoments.filter isOfFlush, moment.Cuts 0 leftoverJob :=
    ⟨leftoverMoments.get ⟨3, by decide⟩, .head _, rfl⟩
  have returned : (QueueCall.flush.procedure.expand (System.queueing 0)).CarriedOut
      (leftoverMoments.filter isOfFlush) (.ok ()) := .ask rfl rfl (.ask rfl rfl (.done _))
  obtain ⟨moment, hm, completes, shown⟩ :=
    @shows_of_returned leftoverJob leftoverSession leftoverMoments _ { strict := true } _ 0
      rfl rfl rfl rfl rfl leftoverRun run alone .flush _ List.filter_sublist returned cut
  obtain ⟨engine, memory, shows⟩ := shown.2
  obtain ⟨descriptor, known, added⟩ := shows.added "b" "2" (.add "B" "2") rfl rfl
  have own : Except.ok ⟨"B", "b", "id", .string, []⟩ = Except.ok descriptor :=
    Eq.trans (Eq.symm rfl) known
  cases own
  exact ⟨moment, hm, completes, shown, engine, memory, added, shows.deleted "a" "2" _ rfl rfl⟩

end Place

end EntitySearch

import EntitySearch.Proofs.Engine.Yields
import EntitySearch.Proofs.Session.Transcribed

/-!
# A job and an engine in memory

While the writer of a queue is at work on a job and the others only ask, an engine in memory gives the
answers of the transcript one after the other, and receives the bulk requests of the job and no others.
The writer can go on by itself until the job is completed, or there is no delay to wait for.

* `Moment.Aside`: the moments of others who only ask.
* `Session.engine_of_after?`: what an event does to an engine in memory.
* `Session.yields_of_run`, `Session.yields_of_start`: what the engine does in a run.
* `Session.exists_play_of_startNext`: that a job can be completed.
-/

namespace EntitySearch

/-- Whether a request of a task asks nothing of the engine that may change it. -/
def SystemRequest.asks : SystemRequest → Bool
  | .send _ call | .receive call _ => call.asks
  | _ => true

/-- Whether nothing is arranged to go wrong at a moment, and others only ask than the writer of a
queue. -/
structure Moment.Aside (moment : Moment) (number : Nat) : Prop where
  uninjected : ∀ faults, moment.event ≠ .inject faults
  asks : moment.event ≠ .write number → ∀ request, moment.request? = some request →
    request.asks = true

theorem Session.aside_of_writes {session : Session} {number steps : Nat} {moments : List Moment}
    (run : session.play? (.start number :: List.replicate steps (.write number)) = some moments) :
    ∀ moment ∈ moments, moment.Aside number := by
  intro moment hm
  have own : moment.event = .start number ∨ moment.event = .write number :=
    (List.mem_cons.mp (mem_of_play? run hm)).imp_right List.eq_of_mem_replicate
  refine ⟨fun faults event => ?_, fun foreign request made => ?_⟩
  · rw [event] at own
    rcases own with own | own <;> cases own
  · rcases own with own | own
    · rw [Moment.request?, own] at made
      cases made
    · exact absurd own foreign

/-! ## Requests to an engine in memory -/

namespace MemoryEngine

variable {engine after : MemoryEngine} {request : SystemRequest} {reply : System.Reply request}

theorem aside_of_serves (h : engine.Serves request reply after) (asks : request.asks = true) :
    Aside engine after ∧ after.bulkRequests = engine.bulkRequests := by
  cases request with
  | send route call =>
    cases route with
    | engine =>
      obtain ⟨-, rfl⟩ := h
      refine ⟨.record _ call, ?_⟩
      rw [bulkRequests_record]
      cases call with
      | bulk operations => cases asks
      | _ => exact List.append_nil _
    | nowhere address =>
      cases h
      exact ⟨.refl engine, rfl⟩
  | receive call delay =>
    have asks : call.asks = true := asks
    have same := engine.answer?_of_asks delay asks
    rw [show engine.answer? delay call = (after, reply) from h] at same
    cases same
    exact ⟨.refl _, rfl⟩
  | abandon => exact reply.elim
  | _ =>
    cases h
    exact ⟨.refl _, rfl⟩

theorem yields_of_serves {number : Nat} {planned : List Operation}
    (h : engine.Serves request reply after) (permitted : request.OfWriter .engine number planned) :
    engine.Yields (request.answered reply) after ∧
      after.bulkRequests = engine.bulkRequests ++ request.sent.filterMap Call.operations? := by
  have idle : after = engine → engine.Yields [] after ∧
      after.bulkRequests = engine.bulkRequests ++ [] := by
    rintro rfl
    exact ⟨Aside.refl _, (List.append_nil _).symm⟩
  cases request with
  | send route call =>
    have routed : route = .engine := by
      cases call with
      | bulk operations => exact permitted.1
      | refresh names => exact permitted
      | _ => exact permitted.elim
    subst routed
    obtain ⟨rfl, rfl⟩ := h
    refine ⟨Aside.record _ call, ?_⟩
    rw [bulkRequests_record]
    cases call <;> rfl
  | receive call delay =>
    have answer : engine.answer? delay call = (after, reply) := h
    have same : after.bulkRequests = engine.bulkRequests := by
      rw [bulkRequests, bulkRequests, ← engine.requests_answer? delay call, answer]
    refine ⟨?_, same.trans (List.append_nil _).symm⟩
    cases reply with
    | none =>
      have answered : (engine.answer? delay call).2.isSome = true := by
        cases call with
        | bulk operations => rfl
        | refresh names => rfl
        | _ => exact permitted.elim
      rw [answer] at answered
      cases answered
    | some outcome => exact Yields.single answer
  | abandon => exact reply.elim
  | mapping schema index => exact permitted.elim
  | guard table request => exact permitted.elim
  | queue number request => exact permitted.elim
  | bridge number request => exact permitted.elim
  | join number => exact permitted.elim
  | sleep delay => exact idle h
  | record measurement => exact idle h
  | publish queue failure => exact idle h

end MemoryEngine

namespace Session

variable {session later : Session} {engine : MemoryEngine}

/-- What an event does to an engine in memory: it is a request that is served, or changes what is to go
wrong, or does nothing to the engine. -/
theorem engine_of_after? {moment : Moment} (memory : moment.before.engine = some engine)
    (unscripted : moment.before.outcomes = [])
    (ha : moment.before.after? moment.event = some moment.after) :
    moment.after.outcomes = [] ∧ ∃ after, moment.after.engine = some after ∧
      ((∃ request reply served, moment.request? = some request ∧
          moment.before.serve? request = some (reply, served) ∧
          engine.Serves request reply after) ∨
        (moment.request? = none ∧
          (after = engine ∨ ∃ faults, moment.event = .inject faults))) := by
  obtain ⟨session, event, later⟩ := moment
  dsimp only at memory unscripted ha
  cases event with
  | request request =>
    obtain ⟨reply, hs⟩ := after?_request ha
    obtain ⟨ho, -, -, after, he, serves⟩ := serve?_engine memory unscripted hs
    exact ⟨ho, after, he, .inl ⟨request, reply, later, rfl, hs, serves⟩⟩
  | write number =>
    obtain ⟨request, next, reply, served, hw, hs, rfl⟩ := after?_write ha
    obtain ⟨ho, -, -, after, he, serves⟩ := serve?_engine memory unscripted hs
    refine ⟨ho, after, he, .inl ⟨request, reply, served, ?_, hs, serves⟩⟩
    simp only [Moment.request?, hw]
  | start number =>
    obtain ⟨_, _, _, -, -, -, rfl⟩ := after?_start ha
    exact ⟨unscripted, engine, memory, .inr ⟨rfl, .inl rfl⟩⟩
  | finish number =>
    obtain ⟨_, -, rfl⟩ := after?_finish ha
    exact ⟨unscripted, engine, memory, .inr ⟨rfl, .inl rfl⟩⟩
  | breakDown number =>
    obtain ⟨_, -, rfl⟩ := after?_breakDown ha
    exact ⟨unscripted, engine, memory, .inr ⟨rfl, .inl rfl⟩⟩
  | pass time aging =>
    cases ha
    exact ⟨unscripted, engine, memory, .inr ⟨rfl, .inl rfl⟩⟩
  | inject faults =>
    cases ha
    refine ⟨unscripted, { engine with faults }, ?_, .inr ⟨rfl, .inr ⟨faults, rfl⟩⟩⟩
    dsimp only
    rw [memory]
    rfl

variable {number : Nat} {host host' : HostedQueue} {plan : BulkPlan}
  {post : Except BridgeError Unit → Transcript → Prop}

/-! ## Runs -/

/-- What a moment of a run does to the engine, if others only ask: the engine gives the answers of the
transcript, and receives its bulk requests and no others. -/
theorem yields_of_after? {moment : Moment} (memory : moment.before.engine = some engine)
    (unscripted : moment.before.outcomes = [])
    (ha : moment.before.after? moment.event = some moment.after)
    (turn : host.Turn number moment host') (aside : moment.Aside number)
    (permits : ∀ {request : SystemRequest} {next : System.Reply request → _},
      host.job = some (.waiting (.ask request next)) →
        request.OfWriter .engine number plan.operations) :
    moment.after.outcomes = [] ∧ ∃ after, moment.after.engine = some after ∧
      engine.Yields (moment.transcript number).answers after ∧
      after.bulkRequests = engine.bulkRequests ++
        (moment.transcript number).sent.filterMap Call.operations? := by
  obtain ⟨ho, after, he, h⟩ := engine_of_after? memory unscripted ha
  refine ⟨ho, after, he, ?_⟩
  have elsewhere : moment.written? number = none → moment.event ≠ .write number →
      engine.Yields (moment.transcript number).answers after ∧
        after.bulkRequests = engine.bulkRequests ++
          (moment.transcript number).sent.filterMap Call.operations? := by
    intro unwritten foreign
    rw [Moment.transcript_of_none unwritten]
    have quiet : engine.Aside after ∧ after.bulkRequests = engine.bulkRequests := by
      rcases h with ⟨request, reply, served, made, -, serves⟩ | ⟨-, rfl | ⟨faults, injected⟩⟩
      · exact MemoryEngine.aside_of_serves serves (aside.asks foreign request made)
      · exact ⟨.refl _, rfl⟩
      · exact absurd injected (aside.uninjected faults)
    exact ⟨quiet.1, quiet.2.trans (List.append_nil _).symm⟩
  cases turn with
  | elsewhere steps foreign unwritten =>
    refine elsewhere unwritten fun own => foreign ?_
    rw [own]
    rfl
  | request own made before serves _ _ _ written =>
    rw [Moment.transcript_of_written written]
    rcases h with ⟨request, reply, served, made', serves', hserves⟩ | ⟨none, -⟩
    · rw [made] at made'
      cases made'
      rw [serves] at serves'
      cases serves'
      exact MemoryEngine.yields_of_serves hserves (permits before)
    · rw [made] at none
      cases none
  | start own => exact elsewhere (by rw [Moment.written?, own]) (by rw [own]; rintro ⟨⟩)
  | finish own => exact elsewhere (by rw [Moment.written?, own]) (by rw [own]; rintro ⟨⟩)
  | breakDown own => exact elsewhere (by rw [Moment.written?, own]) (by rw [own]; rintro ⟨⟩)

/-- What a run does to the engine while the writer of a queue is at work on a job, if the others only
ask: the engine gives the answers of the transcript, and receives its bulk requests and no others. -/
theorem yields_of_run {events : List SessionEvent} :
    ∀ {moments : List Moment} {session : Session} {host : HostedQueue} {engine : MemoryEngine}
      {transcript : Transcript}, session.queues[number]? = some host → host.route = .engine →
        session.engine = some engine → session.outcomes = [] →
        host.Transcribes number plan post transcript → session.play? events = some moments →
        .finish number ∉ events → (∀ moment ∈ moments, moment.Aside number) →
          ∃ last, (session.last moments).engine = some last ∧
            engine.Yields (Moment.transcriptIn moments number).answers last ∧
            last.bulkRequests = engine.bulkRequests ++
              (Moment.transcriptIn moments number).sent.filterMap Call.operations? := by
  induction events with
  | nil =>
    intro moments session host engine transcript hq route memory unscripted h run unfinished aside
    cases run
    exact ⟨engine, memory, .refl engine, (List.append_nil _).symm⟩
  | cons event rest ih =>
    intro moments session host engine transcript hq route memory unscripted h run unfinished aside
    obtain ⟨after, tail, ha, ht, rfl⟩ := play?_cons run
    obtain ⟨host', hq', turn⟩ := turn_of_after? hq ha
    obtain ⟨ho, middle, he, yields, received⟩ :=
      @yields_of_after? engine number host host' plan ⟨session, event, after⟩ memory unscripted ha
        turn (aside _ List.mem_cons_self) fun before => route ▸ h.permits before
    have next := h.turn turn fun own => unfinished (own ▸ List.mem_cons_self)
    obtain ⟨last, hl, yields', received'⟩ := ih hq' (turn.route.trans route) he ho next ht
      (fun hm => unfinished (List.mem_cons_of_mem _ hm))
      fun moment hm => aside moment (List.mem_cons_of_mem _ hm)
    refine ⟨last, hl, yields.append yields', ?_⟩
    rw [received', received, List.append_assoc, ← List.filterMap_append]
    rfl

/-- What a run does to the engine from the moment at which the writer of a queue takes a job. -/
theorem yields_of_start {job : Job} {queue : Queue} {events : List SessionEvent}
    {moments : List Moment} (hosted : session.queues[number]? = some host)
    (route : host.route = .engine) (memory : session.engine = some engine)
    (unscripted : session.outcomes = []) (next : host.queue.startNext = some (job, queue))
    (run : session.play? (.start number :: events) = some moments)
    (unfinished : .finish number ∉ events) (aside : ∀ moment ∈ moments, moment.Aside number) :
    ∃ last, (session.last moments).engine = some last ∧
      engine.Yields (Moment.transcriptIn moments number).answers last ∧
      last.bulkRequests = engine.bulkRequests ++
        (Moment.transcriptIn moments number).sent.filterMap Call.operations? := by
  obtain ⟨after, tail, hq, he, ho, ht, rfl⟩ := started_of_play hosted next run
  obtain ⟨last, hl, yields⟩ := yields_of_run hq route (he.trans memory) (ho.trans unscripted)
    (HostedQueue.transcribes_start rfl) ht unfinished
    fun moment hm => aside moment (List.mem_cons_of_mem _ hm)
  exact ⟨last, hl, yields⟩

/-! ## A writer by itself -/

/-- A request that a writer may make, other than to be broken off, is carried out, and an engine in
memory does not break it off. -/
theorem exists_serve? {request : SystemRequest} {planned : List Operation}
    (memory : session.engine = some engine) (permitted : request.OfWriter .engine number planned)
    (goes : request ≠ .abandon) (excused : Prop) :
    ∃ reply served, session.serve? request = some (reply, served) ∧ request.Prompt excused reply := by
  cases request with
  | send route call => exact ⟨_, _, rfl, trivial⟩
  | receive call delay =>
    have answered : (session.receive call delay).1.isSome = true := by
      rw [receive, memory]
      cases call with
      | bulk operations => rfl
      | refresh names => rfl
      | _ => exact permitted.elim
    have prompt : ∀ {outcome : Option call.Outcome}, outcome.isSome = true →
        SystemRequest.Prompt excused (.receive call delay) outcome := by
      intro outcome some
      cases outcome with
      | none => cases some
      | some outcome => trivial
    exact ⟨_, _, rfl, prompt answered⟩
  | sleep delay => exact ⟨_, _, rfl, trivial⟩
  | record measurement => exact ⟨_, _, rfl, trivial⟩
  | publish queue failure => exact ⟨_, _, rfl, trivial⟩
  | abandon => exact absurd rfl goes
  | _ => exact permitted.elim

theorem exists_after?_write {request : SystemRequest}
    {next : System.Reply request → Procedure System (Except BridgeError Unit)}
    {reply : System.Reply request} {served : Session}
    (writing : session.writing? number = some (.ask request next))
    (serves : session.serve? request = some (reply, served)) :
    ∃ after, session.after? (.write number) = some after ∧
      after.writing? number = some (next reply) ∧ after.engine = served.engine ∧
      after.outcomes = served.outcomes ∧
      Moment.written? ⟨session, .write number, after⟩ number = some ⟨request, reply⟩ := by
  obtain ⟨host, hq, -⟩ := writing?_eq_some writing
  obtain ⟨own, ho, -⟩ := serve?_queue hq serves
  refine ⟨served.modifyQueue number fun own => { own with job := some (.waiting (next reply)) },
    ?_, ?_, rfl, rfl, ?_⟩
  · simp only [after?, writing, serves]
    rfl
  · rw [writing?, queue_modify ho]
    rfl
  · simp only [Moment.written?, writing, serves]
    exact if_pos trivial

theorem exists_after?_finish {outcome : Except BridgeError Unit}
    (writing : session.writing? number = some (.done outcome)) :
    ∃ later, session.after? (.finish number) = some later := by
  simp only [after?, writing]
  exact ⟨_, rfl⟩

/-- The rest of a job can be carried out without anybody else, until it is completed or there is an
excuse to break it off. -/
theorem exists_play_of_ensures {excuse : List Answer → Prop}
    (rest : Procedure System (Except BridgeError Unit)) :
    ∀ {session : Session} {engine : MemoryEngine} {transcript : Transcript},
      session.writing? number = some rest →
        session.engine = some engine → session.outcomes = [] →
        rest.Ensures (System.transcribing excuse .engine number plan) post transcript →
          ∃ steps moments, session.play? (List.replicate steps (.write number)) = some moments ∧
            ((∃ later, (session.last moments).after? (.finish number) = some later) ∨
              excuse (transcript ++ Moment.transcriptIn moments number).answers) := by
  induction rest with
  | done outcome =>
    intro session engine transcript writing memory unscripted h
    exact ⟨0, [], rfl, .inl (exists_after?_finish writing)⟩
  | ask request next ih =>
    intro session engine transcript writing memory unscripted h
    obtain ⟨⟨permitted, excused⟩, hn⟩ := h transcript rfl
    by_cases gone : request = .abandon
    · refine ⟨0, [], rfl, .inr ?_⟩
      rw [Moment.transcriptIn, List.foldr_nil, Transcript.append_empty]
      exact excused gone
    obtain ⟨reply, served, hs, prompt⟩ :=
      exists_serve? memory permitted gone (excuse transcript.answers)
    obtain ⟨after, ha, writing', engine', outcomes', written⟩ := exists_after?_write writing hs
    obtain ⟨unscripted', -, -, served', memory', -⟩ := serve?_engine memory unscripted hs
    obtain ⟨steps, moments, run, ends⟩ := ih reply writing' (engine'.trans memory')
      (outcomes'.trans unscripted') (hn reply _ ⟨prompt, rfl⟩)
    refine ⟨steps + 1, _, play?_of_after? ha run, ends.imp_right fun broken => ?_⟩
    rwa [Moment.transcriptIn, List.foldr_cons, Moment.transcript_of_written written,
      ← Transcript.append_assoc]

/-- **The writer of a queue can go on with a job by itself** over an engine in memory: it completes
the job, unless it is stuck. -/
theorem exists_play_of_startNext {job : Job} {queue : Queue}
    (hosted : session.queues[number]? = some host)
    (free : host.job = none) (route : host.route = .engine)
    (memory : session.engine = some engine) (unscripted : session.outcomes = [])
    (next : host.queue.startNext = some (job, queue)) :
    ∃ steps moments,
      session.play? (.start number :: List.replicate steps (.write number)) = some moments ∧
        ((∃ later, (session.last moments).after? (.finish number) = some later) ∨
          host.writer.Stuck (BulkPlan.ofItems (session.resolver host.schema) job.items)
            (Moment.transcriptIn moments number).answers) := by
  have taken : session.after? (.start number) = some (session.modifyQueue number fun own =>
      { own with
        queue
        job := some (.waiting (host.writing number (session.resolver host.schema) job)) }) := by
    rw [after?, hosted, Option.bind_some, startJob, free, next]
    rfl
  have written := host.writer.write_transcribed (session.resolver host.schema) job.items
    fun _ stuck => stuck
  have rest := written.transcribed host.route number
  rw [route] at rest
  have writing : (session.modifyQueue number fun own =>
      { own with
        queue
        job := some (.waiting (host.writing number (session.resolver host.schema) job)) }).writing?
          number = some ((host.writer.write (session.resolver host.schema) job.items).expand
            (System.writing .engine number)) := by
    rw [writing?, queue_modify hosted, HostedQueue.writing, route]
    rfl
  obtain ⟨steps, moments, run, ends⟩ := exists_play_of_ensures _ writing memory unscripted rest
  exact ⟨steps, _, play?_of_after? taken run, ends⟩

end Session

end EntitySearch
